import ScriptHost.Proofs.Script.NativeFunctions
import ScriptHost.Script.Calls

/-!
Calls by name keep a machine sound.

What a function is bound to is copied while the function value is still where it was found, so the
copies are of values that the machine holds on to.
-/

set_option autoImplicit false

namespace ScriptHost.Script.Run

open Machine Value

variable {env : Environment} {promised : Handle → TypeId → Prop} {earlier : Moment → Prop}
  {machine : Machine} {self : Evaluator}

def Preserving (inv : Machine → Prop) (self : Evaluator) : Prop :=
  ∀ frame term, Keeps inv (self frame term)

theorem holds_bound {bound : List Value} (held : ownedAll bound ≤ machine.owned) :
    Holds machine bound := fun _ member =>
  (owned_le_ownedAll member).trans held

theorem runBody_keeps {covenant : Covenant} (keeps : Preserving (Machine.Sound covenant 0) self)
    (function : Function) (frame : Frame) :
    Keeps (Machine.Sound covenant 0) (runBody self function frame) := by
  intro machine sound
  refine (keeps frame function.body machine sound).outcome (fun _ after ended kept _ => ?_)
    fun halt after halted kept => ?_
  · unfold Leads runBody
    rw [ended]
    exact ⟨kept, trivial⟩
  · unfold Leads runBody
    rw [halted]
    cases halt with
    | returning => exact ⟨kept, trivial⟩
    | breaking => exact kept
    | continuing => exact kept
    | raised failure => exact kept

theorem leads_marked {covenant : Covenant} {inner : Run Unit} {mark : Failure → Failure}
    (inside : Leads (Machine.Sound covenant 0) inner anything machine) :
    Leads (Machine.Sound covenant 0)
      (fun machine =>
        match inner machine with
        | .error (.raised failure) machine => .error (.raised (mark failure)) machine
        | result => result) anything machine := by
  refine inside.outcome (fun _ after ended kept _ => ?_) fun halt after halted kept => ?_
  · unfold Leads
    dsimp only
    rw [ended]
    exact ⟨kept, trivial⟩
  · unfold Leads
    dsimp only
    rw [halted]
    cases halt with
    | returning => exact kept
    | breaking => exact kept
    | continuing => exact kept
    | raised failure => exact kept

theorem leads_callFunction (keeps : Preserving (env.Safe promised earlier) self)
    (sound : env.Safe promised earlier machine) (frame : Frame) (function : Function)
    {bound : List Value} (held : Holds machine bound) (receiver? : Option Place)
    (positions : List Nat) (position : Position) :
    Leads (env.Safe promised earlier)
      (callFunction env self frame function bound receiver? positions position) anything
      machine := by
  apply leads_refuse sound rfl
  intro _
  apply Leads.get_bind
  apply leads_marked
  apply leads_enclosed
  apply Leads.modify_bind
  have copied : ∀ entry ∈ function.parameters.zip bound, entry.2.owned ≤ machine.owned :=
    fun entry member => held entry.2 (List.of_mem_zip member).2
  exact runBody_keeps keeps function _ _ ((sound.declareCopies copied).declareAll _)

theorem callFromHost_keeps {covenant : Covenant}
    (keeps : Preserving (Machine.Sound covenant 0) self) (function : Function)
    (positions : List Nat) :
    Keeps (Machine.Sound covenant 0) (callFromHost self function positions) := by
  intro machine sound
  apply leads_marked
  apply leads_enclosed
  apply Leads.modify_bind
  exact runBody_keeps keeps function _ _ (sound.declareAll _)

theorem owned_le_pushCopy (machine : Machine) (value : Value) :
    machine.owned ≤ (machine.pushCopy value).owned := by
  have grows : ∀ holdings pushed, machine.owned ≤
      ((machine.retainAll holdings).pushRaw pushed).owned := by
    intro holdings pushed
    rw [Machine.pushRaw, owned_push_operand, owned_retainAll]
    exact Multiset.le_add_right _ _
  unfold Machine.pushCopy
  split
  · exact grows _ _
  · exact grows _ _

theorem leads_pushCopies {covenant : Covenant} {bound : List Value}
    (sound : machine.Sound covenant 0) (held : Holds machine bound) :
    Leads (Machine.Sound covenant 0)
      (bound.forM fun value => modify fun machine => machine.pushCopy value : Run PUnit) anything
      machine := by
  induction bound generalizing machine with
  | nil => exact Leads.of_ok sound trivial
  | cons value rest ih =>
      apply Leads.modify_bind
      apply ih (sound.pushCopy (held value List.mem_cons_self))
      intro other member
      exact (held other (List.mem_cons_of_mem _ member)).trans (owned_le_pushCopy machine value)

theorem leads_callValue (keeps : Preserving (env.Safe promised earlier) self)
    (sound : env.Safe promised earlier machine) (frame : Frame) (name : String)
    {bound : List Value} (held : Holds machine bound) (receiver? : Option Place)
    (positions : List Nat) (position : Position) :
    Leads (env.Safe promised earlier)
      (callValue env self frame name bound receiver? positions position) anything machine := by
  unfold callValue
  split
  · exact leads_callFunction keeps sound frame _ held receiver? positions position
  · apply Leads.get_bind
    apply (leads_pushCopies sound held).bind
    intro _ after kept _
    apply (callNative_keeps name _ none position after kept).bind
    intro _ last keptLast _
    exact keepTop_keeps _ _ keptLast

theorem leads_functionNamed {covenant : Covenant} (sound : machine.Sound covenant 0)
    (value : Value) (argument : Position) :
    Leads (Machine.Sound covenant 0) (functionNamed value argument) anything machine := by
  unfold functionNamed
  split
  · split
    · exact Leads.of_modify (sound.makeFunction _ (Multiset.zero_le _)) trivial
    · exact leads_fail sound _ argument _
  · exact leads_fail sound _ argument _

theorem leads_bindArguments {covenant : Covenant} (sound : machine.Sound covenant 0)
    {value : Value} (held : value.owned ≤ machine.owned) (positions : List Nat)
    (position : Position) :
    Leads (Machine.Sound covenant 0) (bindArguments value positions position) anything
      machine := by
  unfold bindArguments
  split
  · exact Leads.of_modify ((sound.makeFunction _ held).bindOperands positions) trivial
  · exact leads_fail sound _ position _

theorem callNamed_keeps (keeps : Preserving (env.Safe promised earlier) self) (frame : Frame)
    (name : String) (arguments : Arguments) (place? : Option Place) (position : Position) :
    Keeps (env.Safe promised earlier)
      (callNamed env self frame name arguments place? position) := by
  intro machine sound
  apply Leads.get_bind
  split
  · apply (push_keeps _ _ sound).bind
    intro _ after kept _
    exact Leads.modify_bind (Leads.of_ok (kept.spendAll _) trivial)
  · split
    · refine (leads_callFunction keeps sound frame _ (fun _ member => absurd member List.not_mem_nil)
        _ _ position).bind fun _ after kept _ => ?_
      exact Leads.of_ok kept trivial
    · exact callNative_keeps _ arguments place? position machine sound

theorem checkRaces_keeps {covenant : Covenant} (name : String) (place : Place)
    (positions : List Nat) :
    Keeps (Machine.Sound covenant 0) (checkRaces name place positions) := by
  intro machine sound
  apply Leads.get_bind
  split
  · exact Leads.of_error sound _
  · exact Leads.of_ok sound trivial

theorem callMethod_keeps (keeps : Preserving (env.Safe promised earlier) self) (frame : Frame)
    (name : String) (place : Place) (positions : List Nat) (start position : Position) :
    Keeps (env.Safe promised earlier)
      (callMethod env self frame name place positions start position) := by
  intro machine sound
  have done : ∀ {work : Run Unit}, Leads (env.Safe promised earlier) work anything machine →
      Leads (env.Safe promised earlier) (work >>= fun _ => pure false) anything machine :=
    fun leads => leads.bind fun _ _ kept _ => Leads.of_ok kept trivial
  have held := owned_valueAt_le machine place
  apply Leads.get_bind
  dsimp only
  generalize machine.valueAt place = target at held ⊢
  split
  · exact done (leads_callValue keeps sound frame _ (holds_bound held) none _ position)
  · exact leads_fail sound _ position _
  · rename_i first rest _
    have firstHeld := owned_operand machine first
    generalize machine.operand first = value at firstHeld ⊢
    split
    · exact done (leads_callValue keeps sound frame _ (holds_bound firstHeld) _ _ position)
    · exact leads_fail sound _ start _
  · exact done (leads_bindArguments sound held _ position)
  · exact (push_keeps _ _ sound).bind fun _ _ kept _ => Leads.of_ok kept trivial
  · split
    · rename_i entry name bound found
      have boundHeld : Holds machine bound := by
        split at found
        · rw [owned_table] at held
          exact holds_bound ((owned_lookup_le found).trans held)
        · cases found
      exact done (leads_callValue keeps sound frame _ boundHeld _ _ position)
    · apply (checkRaces_keeps _ place _ machine sound).bind
      intro _ after kept _
      exact callNamed_keeps keeps frame _ _ _ position after kept

theorem callInModule_keeps (space name : String) (positions : List Nat)
    (start position : Position) :
    Keeps (env.Safe promised earlier)
      (callInModule env space name positions start position) := by
  intro machine sound
  apply leads_refuse sound rfl
  intro _
  apply Leads.get_bind
  dsimp only
  split
  · split
    · refine (leads_native sound (fun value member => ?_) positions position).mono
        fun _ _ _ _ => trivial
      obtain ⟨operand, _, rfl⟩ := List.mem_map.mp member
      exact owned_operand machine operand
    · exact leads_fail sound _ position _
  · exact leads_fail sound _ position _

end ScriptHost.Script.Run
