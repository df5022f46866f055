import ScriptHost.Proofs.Script.Chains
import ScriptHost.Script.Evaluator

/-!
Evaluation keeps a machine sound.

There is one lemma for each sort of term, given that the parts of the term keep the machine sound;
the induction over the steps from term to part gives the result for all terms.
-/

set_option autoImplicit false

namespace ScriptHost.Script.Run

open Machine Value

variable {env : Environment} {promised : Handle → TypeId → Prop} {earlier : Moment → Prop}
  {covenant : Covenant} {machine : Machine} {self : Evaluator}

theorem takeBoolean_keeps (position : Position) :
    Keeps (Machine.Sound covenant 0) (takeBoolean position) := by
  intro machine sound
  apply Leads.get_bind
  apply Leads.modify_bind
  split
  · exact Leads.of_ok sound.drop trivial
  · exact leads_fail sound.drop _ position _

theorem lookup_keeps (frame : Frame) (name : String) (position : Position) :
    Keeps (Machine.Sound covenant 0) (lookup env frame name position) := by
  intro machine sound
  apply Leads.get_bind
  split
  · exact Leads.of_modify (sound.copy _) trivial
  · split
    · exact Leads.of_modify (sound.makeFunction name (Multiset.zero_le _)) trivial
    · exact leads_fail sound _ position _

theorem receiver_keeps (frame : Frame) (position : Position) :
    Keeps (Machine.Sound covenant 0) (receiver frame position) := by
  intro machine sound
  unfold receiver
  split
  · exact Leads.of_ok sound trivial
  · exact leads_fail sound _ position _

theorem items_keeps (keeps : Preserving (Machine.Sound covenant 0) self) (frame : Frame)
    (counted : Extent) (terms : List Term) (extent : Extent) :
    Keeps (Machine.Sound covenant 0) (items env self frame counted terms extent) := by
  induction terms generalizing extent with
  | nil => exact Keeps.of_ok _
  | cons item rest ih =>
      intro machine sound
      apply (keeps frame item machine sound).bind
      intro _ after kept _
      apply Leads.get_bind
      apply (leads_checkExtent kept _ _).bind
      intro _ last keptLast _
      exact ih _ last keptLast

theorem pieces_keeps (keeps : Preserving (env.Safe promised earlier) self) (frame : Frame)
    (terms : List Term) (text : String) :
    Keeps (env.Safe promised earlier) (pieces env self frame terms text) := by
  induction terms generalizing text with
  | nil => exact push_keeps _
  | cons piece rest ih =>
      intro machine sound
      apply (keeps frame piece machine sound).bind
      intro _ after kept _
      apply Leads.get_bind
      apply (leads_display kept (owned_top_le after)).bind
      intro shown last keptLast _
      apply Leads.modify_bind
      apply (leads_checkExtent keptLast.drop _ _).bind
      intro _ checked keptChecked _
      exact ih _ checked keptChecked

theorem sequence_keeps (keeps : Preserving (Machine.Sound covenant 0) self) (frame : Frame)
    (mark : Nat) (statements : List Term) :
    Keeps (Machine.Sound covenant 0) (sequence self frame mark statements) := by
  induction statements with
  | nil => exact Keeps.of_ok _
  | cons statement rest ih =>
      exact (keeps frame statement).bind fun _ => (keepTop_keeps mark).bind fun _ => ih

theorem block_keeps (keeps : Preserving (Machine.Sound covenant 0) self) (frame : Frame)
    (statements : List Term) :
    Keeps (Machine.Sound covenant 0) (block self frame statements) := by
  intro machine sound
  apply Leads.get_bind
  apply (push_keeps _ _ sound).bind
  intro _ after kept _
  exact sequence_keeps keeps frame _ statements after kept

theorem evaluateArguments_keeps (keeps : Preserving (Machine.Sound covenant 0) self)
    (frame : Frame) (arguments : List Term) :
    Keeps (Machine.Sound covenant 0) (evaluateArguments self frame arguments) := by
  intro machine sound
  apply Leads.get_bind
  refine (Leads.forM (fun argument _ => keeps frame argument) sound).bind
    fun _ after kept _ => ?_
  exact Leads.get_bind (Leads.of_ok kept trivial)

theorem findVariable?_go_bound {base : Nat} {name : String} {count index : Nat}
    (bounded : count ≤ machine.scope.size)
    (found : Machine.findVariable?.go machine base name count = some index) :
    index < machine.scope.size := by
  induction count with
  | zero => cases found
  | succ count ih =>
      unfold Machine.findVariable?.go at found
      split at found
      · cases found
      · split at found
        · split at found
          · injection found with same
            omega
          · exact ih (by omega) found
        · exact ih (by omega) found

theorem exists_of_findVariable? {base : Nat} {name : String} {index : Nat}
    (found : machine.findVariable? base name = some index) :
    ∃ entry, machine.scope[index]? = some entry :=
  ⟨_, Array.getElem?_eq_getElem (findVariable?_go_bound (le_refl _) found)⟩

theorem boundValue_keeps (keeps : Preserving (Machine.Sound covenant 0) self) (frame : Frame)
    (term : Term) : Keeps (Machine.Sound covenant 0) (boundValue self frame term) := by
  intro machine sound
  apply Leads.get_bind
  dsimp only
  split
  · rename_i cell found
    split at found
    · obtain ⟨index, _, shared⟩ := Option.bind_eq_some_iff.mp found
      split at shared
      · rename_i name constant other entryFound
        injection shared with same
        subst same
        exact Leads.of_modify (sound.pushShared (mem_owned_of_shared entryFound rfl)) trivial
      · cases shared
    · cases found
  · exact keeps frame term machine sound

theorem call_keeps (keeps : Preserving (env.Safe promised earlier) self) (frame : Frame)
    (name : String) (arguments : List Term) (position : Position) :
    Keeps (env.Safe promised earlier) (call env self frame name arguments position) := by
  intro machine sound
  apply Leads.get_bind
  refine (leads_gathering ?_).bind fun _ after kept (_ : True) => keepTop_keeps _ after kept
  split
  · rename_i target rest
    apply (keeps frame target machine sound).bind
    intro _ after kept _
    apply Leads.get_bind
    apply leads_refuse kept rfl
    intro _
    apply (evaluateArguments_keeps keeps frame rest after kept).bind
    intro found last keptLast _
    obtain ⟨positions, place?⟩ := found
    apply Leads.get_bind
    have held := owned_operand last machine.operands.size
    generalize last.operand machine.operands.size = value at held ⊢
    split
    · exact leads_callValue keeps keptLast frame _ (holds_bound held) none _ position
    · exact leads_fail keptLast _ _ _
  · rename_i target first rest
    apply (keeps frame target machine sound).bind
    intro _ after kept _
    apply Leads.get_bind
    apply leads_refuse kept rfl
    intro _
    refine (Leads.forM (fun term _ => boundValue_keeps keeps frame term) kept).bind
      fun _ last keptLast _ => ?_
    exact Leads.get_bind (leads_bindArguments keptLast (owned_operand last _) _ _)
  · rename_i target
    apply (keeps frame target machine sound).bind
    intro _ after kept _
    exact Leads.get_bind (leads_functionNamed kept _ _)
  · apply (lookup_keeps frame _ _ machine sound).bind
    intro _ after kept _
    exact Leads.get_bind (push_keeps _ _ kept)
  · rename_i target _
    refine (keeps frame target machine sound).bind fun _ after kept _ => push_keeps _ _ kept
  · apply (evaluateArguments_keeps keeps frame _ machine sound).bind
    intro found after kept _
    obtain ⟨positions, place?⟩ := found
    exact (callNamed_keeps keeps frame _ _ place? position after kept).bind
      fun _ last keptLast _ => Leads.of_ok keptLast trivial

theorem moduleCall_keeps (keeps : Preserving (env.Safe promised earlier) self) (frame : Frame)
    (space name : String) (arguments : List Term) (start position : Position) :
    Keeps (env.Safe promised earlier)
      (moduleCall env self frame space name arguments start position) := by
  intro machine sound
  apply Leads.get_bind
  refine (leads_gathering ?_).bind fun _ after kept (_ : True) => keepTop_keeps _ after kept
  apply (evaluateArguments_keeps keeps frame arguments machine sound).bind
  intro found after kept _
  exact callInModule_keeps space name found.1 start position after kept

theorem capture_keeps (keeps : Preserving (Machine.Sound covenant 0) self) (frame : Frame)
    (term : Term) : Keeps (Machine.Sound covenant 0) (capture self frame term) := by
  intro machine sound
  unfold capture
  split
  · apply Leads.get_bind
    split
    · rename_i index found
      obtain ⟨entry, entryFound⟩ := exists_of_findVariable? found
      obtain ⟨shared, held⟩ := sound.share entryFound
      exact Leads.modifyGet_bind (Leads.of_modify (shared.pushShared held) trivial)
    · exact leads_fail sound _ _ _
  · exact keeps frame _ machine sound

theorem closure_keeps (keeps : Preserving (Machine.Sound covenant 0) self) (frame : Frame)
    (name : String) (bound : List Term) :
    Keeps (Machine.Sound covenant 0) (closure self frame name bound) := by
  intro machine sound
  apply Leads.get_bind
  refine (leads_gathering (Leads.forM (fun term _ => capture_keeps keeps frame term) sound)).bind
    fun _ after kept _ => ?_
  apply Leads.modify_bind
  apply keepTop_keeps _ _
  exact (kept.makeFunction name (Multiset.zero_le _)).bindOperands _

theorem assignWhole_keeps (operation? : Option Operation) (place : Place) (value : Nat)
    (position : Position) :
    Keeps (env.Safe promised earlier) (assignWhole env operation? place value position) := by
  intro machine sound
  unfold assignWhole
  dsimp only
  split
  · exact Leads.modify_bind (Leads.modify_bind (push_keeps _ _ ((sound.raise value).assign place)))
  · rename_i operation
    exact (change_keeps operation place value position machine sound).bind
      fun _ after kept _ => push_keeps _ _ kept

theorem assignVariable_keeps (keeps : Preserving (env.Safe promised earlier) self)
    (frame : Frame) (operation? : Option Operation) (name : String) (value : Term)
    (namePosition position : Position) :
    Keeps (env.Safe promised earlier)
      (assignVariable env self frame operation? name value namePosition position) := by
  intro machine sound
  apply Leads.get_bind
  apply (keeps frame value machine sound).bind
  intro _ after kept _
  apply Leads.get_bind
  split
  · exact leads_refuse kept rfl fun _ => leads_fail kept _ namePosition _
  · apply Leads.get_bind
    apply leads_refuse kept rfl
    intro _
    exact assignWhole_keeps operation? _ _ position after kept

theorem assignReceiver_keeps (keeps : Preserving (env.Safe promised earlier) self)
    (frame : Frame) (operation? : Option Operation) (value : Term)
    (namePosition position : Position) :
    Keeps (env.Safe promised earlier)
      (assignReceiver env self frame operation? value namePosition position) := by
  intro machine sound
  apply Leads.get_bind
  apply (keeps frame value machine sound).bind
  intro _ after kept _
  apply (receiver_keeps frame namePosition after kept).bind
  intro place last keptLast _
  apply Leads.get_bind
  apply leads_refuse keptLast rfl
  intro _
  exact assignWhole_keeps operation? place _ position last keptLast

theorem assignment_keeps (keeps : Preserving (env.Safe promised earlier) self)
    (frame : Frame) (operation? : Option Operation) (target value : Term)
    (position : Position) :
    Keeps (env.Safe promised earlier)
      (assignment env self frame operation? target value position) := by
  intro machine sound
  apply Leads.get_bind
  refine (leads_gathering ?_).bind fun _ after kept (_ : True) => keepTop_keeps _ after kept
  split
  · exact assignVariable_keeps keeps frame operation? _ value _ position machine sound
  · exact assignReceiver_keeps keeps frame operation? value _ position machine sound
  · apply Leads.get_bind
    apply (keeps frame value machine sound).bind
    intro _ after kept _
    exact chain_keeps keeps frame _ _ _ after kept
  · exact leads_fail sound _ _ _

theorem checkScope_keeps (frame : Frame) (position : Position) :
    Keeps (Machine.Sound covenant 0) (checkScope env frame position) := by
  intro machine sound
  apply Leads.get_bind
  exact (leads_check sound _ position).mono fun _ _ _ _ => trivial

theorem declaration_keeps (keeps : Preserving (env.Safe promised earlier) self)
    (frame : Frame) (name : String) (constant again : Bool) (value : Term)
    (position : Position) :
    Keeps (env.Safe promised earlier)
      (declaration env self frame name constant again value position) := by
  unfold declaration
  apply Keeps.checked (checkScope_keeps frame position)
  intro machine sound
  apply (keeps frame value machine sound).bind
  intro _ after kept _
  apply Leads.get_bind
  dsimp only
  split
  · exact Leads.modify_bind (push_keeps _ _ (kept.redeclare _ constant))
  · exact Leads.modify_bind (push_keeps _ _ (kept.declare name constant))

theorem whileLoop_keeps (keeps : Preserving (Machine.Sound covenant 0) self) (frame : Frame)
    (condition body : Term) (fuel : Nat) {tick : Run Unit}
    (ticks : Keeps (Machine.Sound covenant 0) tick) (position : Position) :
    Keeps (Machine.Sound covenant 0)
      (whileLoop self frame condition body fuel tick position) := by
  refine repeatWhile_keeps ?_ position fuel
  refine ticks.bind fun _ => (keeps frame condition).bind fun _ => ?_
  apply (takeBoolean_keeps condition.position).bind
  intro holds
  cases holds with
  | true => exact turn_keeps (keeps frame body)
  | false => exact (push_keeps _).bind fun _ => Keeps.of_ok _

theorem overItems_keeps (keeps : Preserving (Machine.Sound covenant 0) self) (frame : Frame)
    (body : Term) (variable_ : Nat) {next : Nat → Run Unit}
    (nexts : ∀ index, Keeps (Machine.Sound covenant 0) (next index)) {tick : Run Unit}
    (ticks : Keeps (Machine.Sound covenant 0) tick) (remaining index : Nat) :
    Keeps (Machine.Sound covenant 0)
      (overItems self frame body variable_ next tick remaining index) := by
  induction remaining generalizing index with
  | zero => exact push_keeps _
  | succ remaining ih =>
      refine ticks.bind fun _ => (nexts index).bind fun _ => ?_
      refine (Keeps.of_modify fun _ sound => sound.assign _).bind fun _ => ?_
      apply (turn_keeps (keeps frame body)).bind
      intro goes
      cases goes with
      | true => exact ih (index + 1)
      | false => exact Keeps.of_ok _

theorem iteration?_keeps {position : Nat} {value : Value} {count : Nat} {next : Nat → Run Unit}
    (found : iteration? position value = some (count, next)) (index : Nat) :
    Keeps (Machine.Sound covenant 0) (next index) := by
  unfold iteration? at found
  split at found
  · cases found
    exact Keeps.of_modify fun _ sound => sound.takeItem position index
  · cases found
    exact push_keeps _
  · cases found
    exact push_keeps _
  · cases found

theorem forLoop_keeps (keeps : Preserving (env.Safe promised earlier) self) (frame : Frame)
    (name : String) (namePosition : Position) (iterated body : Term) {tick : Run Unit}
    (ticks : Keeps (env.Safe promised earlier) tick) :
    Keeps (env.Safe promised earlier)
      (forLoop env self frame name namePosition iterated body tick) := by
  intro machine sound
  apply (checkScope_keeps frame namePosition machine sound).bind
  intro _ checked keptCheck _
  apply Leads.get_bind
  refine (leads_gathering ?_).bind fun _ after kept (_ : True) => keepTop_keeps _ after kept
  apply (keeps frame iterated checked keptCheck).bind
  intro _ after kept _
  apply Leads.get_bind
  split
  · exact leads_fail kept _ _ _
  · rename_i count next found
    apply leads_enclosed
    apply Leads.get_bind
    apply (push_keeps _ _ kept).bind
    intro _ last keptLast _
    apply Leads.modify_bind
    apply leads_spendingAfter
    exact overItems_keeps keeps frame body _ (iteration?_keeps found) ticks count 0 _
      (keptLast.declare name false)

theorem pushCaught_keeps (failure : Failure) :
    Keeps (Machine.Sound covenant 0) (pushCaught failure) := by
  unfold pushCaught
  split
  · exact Keeps.of_modify fun _ sound => sound.copyThrown
  · exact Keeps.of_modify fun _ sound => sound.pushLiteral _

theorem endHandler_keeps (failure : Failure) (kept : Nat) {handler : Run Unit}
    (handles : Keeps (Machine.Sound covenant 0) handler) :
    Keeps (Machine.Sound covenant 0) (endHandler failure kept handler) := by
  have finished : ∀ machine : Machine, machine.Sound covenant 0 →
      (if failure.problem = .thrown then machine.dropThrownAt kept else machine).Sound
        covenant 0 := by
    intro machine sound
    split
    · exact sound.dropThrownAt kept
    · exact sound
  intro machine sound
  refine (handles machine sound).outcome (fun _ after ended holds _ => ?_)
    fun halt after halted holds => ?_
  · unfold Leads endHandler
    dsimp only
    rw [ended]
    exact ⟨finished after holds, trivial⟩
  · unfold Leads endHandler
    dsimp only
    rw [halted]
    cases halt with
    | returning => exact finished after holds
    | breaking => exact finished after holds
    | continuing => exact finished after holds
    | raised other =>
        dsimp only
        split_ifs
        · exact holds.dropThrown
        · exact holds.dropThrownAt kept
        · exact holds

theorem caught_keeps {body : Run Unit} (keeps : Keeps (Machine.Sound covenant 0) body) :
    Keeps (Machine.Sound covenant 0) (caught body) := by
  intro machine sound
  refine (keeps machine sound).outcome (fun _ after ended kept _ => ?_)
    fun halt after halted kept => ?_
  · unfold Leads caught
    rw [ended]
    exact ⟨kept, trivial⟩
  · unfold Leads caught
    rw [halted]
    cases halt with
    | returning => exact kept
    | breaking => exact kept
    | continuing => exact kept
    | raised failure =>
        dsimp only
        split_ifs
        · exact kept
        · exact ⟨kept, trivial⟩

theorem attempt_keeps (keeps : Preserving (env.Safe promised earlier) self) (frame : Frame)
    (body : Term) (caught? : Option (String × Position)) (handler : Term) :
    Keeps (env.Safe promised earlier) (attempt env self frame body caught? handler) := by
  intro machine sound
  apply Leads.get_bind
  apply Leads.get_bind
  have enclosing : Keeps (env.Safe promised earlier) (enclosed (self frame body)) :=
    fun machine sound => leads_enclosed (keeps frame body machine sound)
  refine (caught_keeps enclosing machine sound).bind fun failure? after kept _ => ?_
  cases failure? with
  | none => exact Leads.of_ok kept trivial
  | some failure =>
      refine (endHandler_keeps failure _ ?_ after kept).bind fun _ last keptLast _ => ?_
      · intro machine sound
        apply leads_enclosed
        dsimp only
        split
        · apply (checkScope_keeps frame _ machine sound).bind
          intro _ checked keptCheck _
          apply (pushCaught_keeps failure checked keptCheck).bind
          intro _ pushed keptPushed _
          exact Leads.modify_bind (keeps frame handler _ (keptPushed.declare _ false))
        · exact keeps frame handler machine sound
      · exact Leads.modify_bind (push_keeps _ _ (keptLast.dropTo _))

theorem term_keeps (keeps : Preserving (env.Safe promised earlier) self) (fuel : Nat)
    (frame : Frame) (term : Term) :
    Keeps (env.Safe promised earlier) (Run.term env self fuel frame term) := by
  apply (tick_keeps term.position).bind
  intro _
  cases term with
  | literal value position => exact Keeps.of_modify fun _ sound => sound.pushLiteral value
  | lookup name position => exact lookup_keeps frame name position
  | constant name index position => exact Keeps.of_modify fun _ sound => sound.copy _
  | receiver position =>
      exact (receiver_keeps frame position).bind fun _ => Keeps.of_modify fun _ sound => sound.copy _
  | list values position =>
      intro machine sound
      apply Leads.get_bind
      apply (leads_gathering (items_keeps keeps frame _ values _ machine sound)).bind
      intro _ after kept _
      exact Leads.of_modify (kept.makeList _) trivial
  | table entries position =>
      intro machine sound
      apply Leads.get_bind
      apply (leads_gathering (items_keeps keeps frame _ _ _ machine sound)).bind
      intro _ after kept _
      exact Leads.of_modify (kept.makeTable _ _) trivial
  | interpolation parts position => exact pieces_keeps keeps frame parts ""
  | call name arguments position => exact call_keeps keeps frame name arguments position
  | moduleCall space name arguments start position =>
      exact moduleCall_keeps keeps frame space name arguments start position
  | moduleLookup space name start =>
      intro machine sound
      dsimp only
      split
      · exact leads_fail sound _ start _
      · exact leads_fail sound _ start _
  | negation operand position =>
      intro machine sound
      apply leads_gathering
      exact (keeps frame operand).bind (fun _ => unary_keeps "-" position) machine sound
  | complement operand position =>
      intro machine sound
      apply leads_gathering
      exact (keeps frame operand).bind (fun _ => unary_keeps "!" position) machine sound
  | binary operation left right position =>
      intro machine sound
      apply Leads.get_bind
      refine (leads_gathering ?_).bind fun _ after kept (_ : True) => keepTop_keeps _ after kept
      apply (keeps frame left machine sound).bind
      intro _ after kept _
      apply (keeps frame right after kept).bind
      intro _ last keptLast _
      exact binary_keeps operation _ _ position last keptLast
  | conjunction left right position =>
      refine (keeps frame left).bind fun _ => (takeBoolean_keeps left.position).bind fun holds => ?_
      cases holds with
      | true =>
          exact (keeps frame right).bind fun _ => (takeBoolean_keeps right.position).bind fun _ =>
            push_keeps _
      | false => exact push_keeps _
  | disjunction left right position =>
      refine (keeps frame left).bind fun _ => (takeBoolean_keeps left.position).bind fun holds => ?_
      cases holds with
      | true => exact push_keeps _
      | false =>
          exact (keeps frame right).bind fun _ => (takeBoolean_keeps right.position).bind fun _ =>
            push_keeps _
  | chain root links position => exact chain_keeps keeps frame none root links
  | conditional condition consequence alternative position =>
      apply (keeps frame condition).bind
      intro _
      apply (takeBoolean_keeps condition.position).bind
      intro holds
      cases holds with
      | true => exact keeps frame consequence
      | false => exact keeps frame alternative
  | closure name bound position => exact closure_keeps keeps frame name bound
  | block statements position =>
      exact fun machine sound => leads_enclosed (block_keeps keeps frame statements machine sound)
  | declaration name constant again value position =>
      exact declaration_keeps keeps frame name constant again value position
  | assignment operation? target value position =>
      exact assignment_keeps keeps frame operation? target value position
  | whileLoop condition body position =>
      exact whileLoop_keeps keeps frame condition body fuel (tick_keeps position) position
  | forLoop name namePosition iterated body position =>
      exact forLoop_keeps keeps frame name namePosition iterated body (tick_keeps position)
  | breaking value position => exact (keeps frame value).bind fun _ => Keeps.of_error _
  | continuing position => exact Keeps.of_error _
  | returning value position => exact (keeps frame value).bind fun _ => Keeps.of_error _
  | throwing value position =>
      intro machine sound
      apply (keeps frame value machine sound).bind
      intro _ after kept _
      exact Leads.modify_bind (leads_fail kept.throwTop _ position _)
  | attempt body caught? handler position => exact attempt_keeps keeps frame body caught? handler

/-- Whatever a script does, however long it runs and wherever it halts, the machine stays sound. -/
theorem evaluate_keeps (fuel : Nat) :
    Preserving (env.Safe promised earlier) (evaluate env fuel) := by
  induction fuel with
  | zero => exact fun frame term machine sound => leads_fail sound _ _ _
  | succ fuel ih => exact fun frame term => term_keeps ih fuel frame term

end ScriptHost.Script.Run
