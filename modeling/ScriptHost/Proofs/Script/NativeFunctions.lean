import ScriptHost.Proofs.Script.Texts
import ScriptHost.Script.Operators

/-!
Native functions and operators keep a machine sound.

The values that a native function works on are copies of what operands and places hold, which stay
where they are until the function has ended.
-/

set_option autoImplicit false

namespace ScriptHost.Script.Run

open Machine Value

variable {env : Environment} {promised : Handle → TypeId → Prop} {earlier : Moment → Prop}
  {machine : Machine}

def Holds (machine : Machine) (values : List Value) : Prop :=
  ∀ value ∈ values, value.owned ≤ machine.owned

theorem holds_one {value : Value} (held : value.owned ≤ machine.owned) : Holds machine [value] :=
  fun _ member => List.mem_singleton.mp member ▸ held

theorem holds_two {left right : Value} (leftHeld : left.owned ≤ machine.owned)
    (rightHeld : right.owned ≤ machine.owned) : Holds machine [left, right] := by
  intro value member
  rcases List.mem_pair.mp member with rfl | rfl
  · exact leftHeld
  · exact rightHeld

theorem owned_operand (machine : Machine) (position : Nat) :
    (machine.operand position).owned ≤ machine.owned :=
  owned_valueAt_le machine _

theorem Arguments.holds_values (arguments : Arguments) (machine : Machine) :
    Holds machine (arguments.values machine) := by
  intro value member
  rcases List.mem_append.mp member with inReceiver | inPositions
  · obtain ⟨place, _, rfl⟩ := Option.map_eq_some_iff.mp (Option.mem_toList.mp inReceiver)
    exact owned_valueAt_le machine place
  · obtain ⟨position, _, rfl⟩ := List.mem_map.mp inPositions
    exact owned_operand machine position

theorem leads_refuseConstantReceiver {covenant : Covenant} (sound : machine.Sound covenant 0)
    (name : String) (place : Place) (position : Position) :
    Leads (Machine.Sound covenant 0) (refuseConstantReceiver name place position) anything
      machine := by
  apply Leads.get_bind
  exact (leads_check sound _ position).mono fun _ _ _ _ => trivial

theorem leads_inPlace {covenant : Covenant} {place? : Option Place} {work : Place → Run PUnit}
    (keeps : ∀ place, Keeps (Machine.Sound covenant 0) (work place))
    (sound : machine.Sound covenant 0) :
    Leads (Machine.Sound covenant 0) (place?.forM work) anything machine := by
  cases place? with
  | none => exact Leads.of_ok sound trivial
  | some place => exact keeps place machine sound

theorem leads_performBuiltin (sound : env.Safe promised earlier machine) (builtin : Builtin)
    (name : String) (arguments : Arguments) {values : List Value} (held : Holds machine values)
    (place? : Option Place) (position : Position) :
    Leads (env.Safe promised earlier)
      (performBuiltin env builtin name arguments values place? position) anything machine := by
  unfold performBuiltin
  split
  · exact push_keeps _ _ sound
  · rename_i value
    exact (leads_textOf name value sound (held value List.mem_cons_self)).bind
      fun text after kept _ => push_keeps _ _ kept
  · rename_i asked value
    exact (leads_textOf asked value sound (held value List.mem_cons_self)).bind
      fun text after kept _ => push_keeps _ _ kept
  · exact push_keeps _ _ sound
  · refine (leads_inPlace (fun place machine sound => ?_) sound).bind
      fun _ after kept _ => push_keeps _ _ kept
    apply (leads_refuseConstantReceiver sound name place position).bind
    intro _ after kept _
    exact Leads.forM (fun item _ => Keeps.of_modify fun _ sound => sound.append place item) kept
  · refine (leads_inPlace (fun place machine sound => ?_) sound).bind
      fun _ after kept _ => push_keeps _ _ kept
    apply (leads_refuseConstantReceiver sound name place position).bind
    intro _ after kept _
    exact Leads.of_modify (kept.clear place) trivial
  · exact push_keeps _ _ sound
  · split
    · exact push_keeps _ _ sound
    · exact leads_fail sound _ position _
  · exact push_keeps _ _ sound
  · rename_i left right
    have leftHeld := held left List.mem_cons_self
    have rightHeld := held right (List.mem_cons_of_mem _ List.mem_cons_self)
    apply (leads_display sound leftHeld).bind
    intro text after kept same
    apply (leads_display kept (le_of_le_of_eq rightHeld same.symm)).bind
    intro other last keptLast _
    exact push_keeps _ _ keptLast
  · split
    · rename_i left right _
      apply Leads.modify_bind
      apply Leads.get_bind
      exact Leads.of_modify ((sound.raise left).appendItems _ right) trivial
    · exact push_keeps _ _ sound
  · split
    · rename_i left right _
      apply Leads.modify_bind
      apply Leads.get_bind
      exact Leads.of_modify ((sound.raise left).mergeEntries _ right) trivial
    · exact push_keeps _ _ sound
  · rename_i left right
    exact (leads_sameValue position left right sound (held left List.mem_cons_self)
      (held right (List.mem_cons_of_mem _ List.mem_cons_self))).bind
        fun equal after kept _ => push_keeps _ _ kept
  · rename_i left right
    exact (leads_sameValue position left right sound (held left List.mem_cons_self)
      (held right (List.mem_cons_of_mem _ List.mem_cons_self))).bind
        fun equal after kept _ => push_keeps _ _ kept
  · exact push_keeps _ _ sound
  · exact push_keeps _ _ sound
  · exact push_keeps _ _ sound
  · exact push_keeps _ _ sound
  · exact push_keeps _ _ sound

theorem leads_perform (sound : env.Safe promised earlier machine) (found : Native)
    (name : String) (arguments : Arguments) {values : List Value} (held : Holds machine values)
    (place? : Option Place) (used : List Nat) (position : Position) :
    Leads (env.Safe promised earlier)
      (perform env found name arguments values place? used position) anything machine := by
  have ending : Keeps (env.Safe promised earlier)
      (do
        if found.byReference then
          place?.forM fun place => checkPlace env place position
        checkTop env position) := by
    intro machine sound
    dsimp only
    split
    · refine (leads_inPlace (fun place machine sound => ?_) sound).bind fun _ after kept _ => ?_
      · exact (leads_checkPlace sound place position).mono fun _ _ _ _ => trivial
      · exact (leads_checkTop kept position).mono fun _ _ _ _ => trivial
    · exact (leads_checkTop sound position).mono fun _ _ _ _ => trivial
  unfold perform
  dsimp only
  split
  · apply (leads_performBuiltin sound _ name arguments held place? position).bind
    intro _ after kept _
    exact Leads.modify_bind (ending _ (kept.spendAll used))
  · rename_i reference
    apply (leads_objectText sound (held _ List.mem_cons_self)).bind
    intro text after kept _
    apply (push_keeps _ _ kept).bind
    intro _ last keptLast _
    exact Leads.modify_bind (ending _ (keptLast.spendAll used))
  · split
    · rename_i request asked
      refine (leads_native sound (fun value member =>
        held value (Native.mem_of_request? asked member)) used position).bind
          fun _ after kept _ => ?_
      exact ending _ kept
    · exact (@leads_fail Unit _ _ sound _ position fun _ _ => False).bind
        fun _ _ _ wrong => wrong.elim

theorem output_keeps {covenant : Covenant} (name : String) (position : Position) :
    Keeps (Machine.Sound covenant 0) (output name position) := by
  intro machine sound
  unfold output
  split
  · apply Leads.get_bind
    split
    · apply Leads.modify_bind
      dsimp only
      split
      · exact Leads.modify_bind (push_keeps _ _ (sound.drop.shift rfl rfl rfl rfl))
      · exact push_keeps _ _ sound.drop
    · exact leads_fail sound _ position _
  · exact Leads.of_ok sound trivial

theorem callNative_keeps (name : String) (arguments : Arguments) (place? : Option Place)
    (position : Position) :
    Keeps (env.Safe promised earlier) (callNative env name arguments place? position) := by
  intro machine sound
  apply Leads.get_bind
  dsimp only
  split
  · exact leads_fail sound _ position _
  · rename_i found _
    refine (leads_perform sound found name arguments (arguments.holds_values machine) place? _
      position).bind fun _ after kept _ => ?_
    exact (output_keeps name position after kept).bind fun _ last keptLast _ =>
      Leads.of_ok keptLast trivial

theorem leads_pushSpending {covenant : Covenant} (sound : machine.Sound covenant 0)
    (datum : Datum) (used : List Nat) (position : Position) :
    Leads (Machine.Sound covenant 0) (do
      push datum
      modify fun machine => machine.spendAll used
      checkTop env position) anything machine := by
  apply (push_keeps datum machine sound).bind
  intro _ after kept _
  exact Leads.modify_bind ((leads_checkTop (kept.spendAll used) position).mono
    fun _ _ _ _ => trivial)

theorem applyFunction_keeps (operation : Operation) (left right : Nat) (position : Position) :
    Keeps (env.Safe promised earlier) (applyFunction env operation left right position) := by
  intro machine sound
  apply Leads.get_bind
  apply Leads.get_bind
  dsimp only
  split
  · rename_i found _
    exact leads_perform sound found operation.symbol ⟨none, [left, right]⟩
      (holds_two (owned_operand machine left) (owned_operand machine right)) none [right, left]
      position
  · split
    · rename_i outcome _
      cases outcome with
      | ok datum => exact leads_pushSpending sound datum _ position
      | error problem => exact leads_fail sound _ position _
    · split
      · exact leads_fail sound _ position _
      · split
        · exact leads_pushSpending sound _ _ position
        · exact leads_fail sound _ position _
        · exact leads_fail sound _ position _

theorem binary_keeps (operation : Operation) (left right : Nat) (position : Position) :
    Keeps (env.Safe promised earlier) (binary env operation left right position) := by
  intro machine sound
  apply Leads.get_bind
  apply Leads.get_bind
  split
  · exact leads_pushSpending sound _ _ position
  · exact leads_fail sound _ position _
  · exact applyFunction_keeps operation left right position machine sound

theorem unary_keeps (symbol : String) (position : Position) :
    Keeps (env.Safe promised earlier) (unary env symbol position) := by
  intro machine sound
  apply Leads.get_bind
  apply Leads.get_bind
  split
  · rename_i found _
    refine (leads_perform sound found symbol _ (holds_one (owned_operand machine _)) none _
      position).bind fun _ after kept _ => ?_
    exact keepTop_keeps _ _ kept
  · exact leads_fail sound _ position _

theorem checkGrowth_keeps (held added : Value) (result : Datum) (position : Position) :
    Keeps (env.Safe promised earlier) (checkGrowth env held added result position) := by
  intro machine sound
  unfold checkGrowth
  split
  · exact (leads_checkExtent sound _ position).mono fun _ _ _ _ => trivial
  · exact Leads.of_ok sound trivial

theorem checkPlace_keeps (place : Place) (position : Position) :
    Keeps (env.Safe promised earlier) (checkPlace env place position) := fun _ sound =>
  (leads_checkPlace sound place position).mono fun _ _ _ _ => trivial

theorem changeByFunction_keeps (operation : Operation) (place : Place) (added : Nat)
    (position : Position) :
    Keeps (env.Safe promised earlier)
      (changeByFunction env operation place added position) := by
  intro machine sound
  apply Leads.get_bind
  apply Leads.get_bind
  have held : Holds machine [machine.valueAt place, machine.operand added] :=
    holds_two (owned_valueAt_le machine place) (owned_operand machine added)
  dsimp only
  split
  · rename_i found _
    split
    · exact Leads.modify_bind (checkPlace_keeps place position _ (sound.mergeEntries place added))
    · apply (leads_display sound (owned_valueAt_le machine place)).bind
      intro text after kept same
      apply (leads_display kept (le_of_le_of_eq (owned_operand machine added) same.symm)).bind
      intro other last keptLast _
      apply (push_keeps _ _ keptLast).bind
      intro _ pushed keptPushed _
      exact Leads.modify_bind (checkPlace_keeps place position _ (keptPushed.assign place))
    · apply (leads_perform sound found _ ⟨none, []⟩ held none [] position).bind
      intro _ after kept _
      exact Leads.modify_bind (checkPlace_keeps place position _ kept.drop)
  · apply Leads.modify_bind
    apply Leads.get_bind
    apply (applyFunction_keeps operation _ added position _ (sound.copy place)).bind
    intro _ after kept _
    apply Leads.modify_bind
    apply Leads.modify_bind
    exact checkPlace_keeps place position _ ((kept.assign place).dropTo _)

theorem change_keeps (operation : Operation) (place : Place) (added : Nat)
    (position : Position) :
    Keeps (env.Safe promised earlier) (change env operation place added position) := by
  intro machine sound
  apply Leads.get_bind
  apply Leads.get_bind
  split
  · exact Leads.modify_bind (checkPlace_keeps place position _ (sound.appendItems place added))
  · exact Leads.modify_bind (checkPlace_keeps place position _ (sound.append place added))
  · split
    · apply (checkGrowth_keeps _ _ _ position machine sound).bind
      intro _ after kept _
      apply (push_keeps _ _ kept).bind
      intro _ last keptLast _
      exact Leads.of_modify (keptLast.assign place) trivial
    · exact leads_fail sound _ position _
    · exact changeByFunction_keeps _ place added position machine sound

end ScriptHost.Script.Run
