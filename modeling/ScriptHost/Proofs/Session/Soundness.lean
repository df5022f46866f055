import ScriptHost.Proofs.Script.Evaluation
import ScriptHost.Proofs.Script.Losses
import ScriptHost.Session.Operation

/-!
Sessions stay sound under all operations.

Between two operations no operand and no thrown value is left on the machine, every reference is
counted and finds its instance, and every instance that nothing claims is in the queue. Each
operation keeps this up, whether it succeeds or fails, and what it gives to the host is pinned.
-/

set_option autoImplicit false

namespace ScriptHost

open Script

namespace Session

/-- A session that has not been torn down, between two operations. Only instances that are spare
may be without a claim. -/
structure Sound (promised : Handle → TypeId → Prop) (earlier : Moment → Prop)
    (spare : Handle → Prop) (session : Session) : Prop where
  alive : session.phase ≠ .tornDown
  machine : session.machine.Sound ⟨session.types, promised, earlier⟩ 0
  operands : session.machine.operands = #[]
  thrown : session.machine.thrown = #[]
  tidy : ∀ handle, session.machine.store.heap.unclaimed handle = true → spare handle

variable {α β : Type} {promised : Handle → TypeId → Prop} {earlier : Moment → Prop}
  {spare : Handle → Prop} {session : Session}

theorem resident?_empty (handle : Handle) : (Heap.empty : Heap Occupant).resident? handle = none := by
  simp [Heap.resident?, Heap.empty]

theorem sound_create (configuration : Configuration) :
    (create configuration).Sound (fun _ _ => False) earlier spare := by
  have claimed : ∀ handle, (Heap.empty : Heap Occupant).unclaimed handle ≠ true := by
    intro handle unclaimed
    obtain ⟨resident, found, _⟩ := Heap.unclaimed_iff.mp unclaimed
    cases (resident?_empty _).symm.trans found
  have accounts : (Heap.empty : Heap Occupant).Accounts
      ⟨.empty, fun _ _ => False, earlier⟩ 0 := by
    refine ⟨Heap.regular_empty, fun found => ?_, fun member => ?_, fun found => ?_,
      fun none => none.elim⟩
    · cases (resident?_empty _).symm.trans found
    · exact absurd member (Multiset.notMem_zero _)
    · cases (resident?_empty _).symm.trans found
  refine ⟨nofun, ⟨accounts, fun handle unclaimed => (claimed handle unclaimed).elim,
    fun found => ?_, fun member => ?_, fun _ none => none.elim⟩, rfl, rfl,
    fun handle unclaimed => (claimed handle unclaimed).elim⟩
  · exact nomatch found
  · exact absurd member (Multiset.notMem_zero _)

theorem leads_whenReady {inv : Session → Prop} {action : Action α}
    {post : α → Session → Prop} (kept : inv session)
    (ready : session.phase = .ready → Leads inv action post session) :
    Leads inv (whenReady action) post session := by
  unfold Leads whenReady
  cases phase : session.phase with
  | ready => exact ready phase
  | uninitialized => exact kept
  | tornDown => exact kept

theorem leads_ofResult {inv : Session → Prop} (kept : inv session) (result : Except Fault α)
    {post : α → Session → Prop} (meets : ∀ value, result = .ok value → post value session) :
    Leads inv (ofResult result) post session := by
  cases result with
  | ok value => exact ⟨kept, meets value rfl⟩
  | error fault => exact kept

def withMachine (session : Session) (machine : Machine) : Session :=
  { session with machine := machine }

theorem leads_onMachine {inv : Session → Prop} {work : Machine → α × Machine}
    {rest : α → Action β} {final : β → Session → Prop}
    (later : Leads inv (rest (work session.machine).1) final
      (session.withMachine (work session.machine).2)) :
    Leads inv (onMachine work >>= rest) final session :=
  later

theorem Sound.withMachine (sound : session.Sound promised earlier spare) {machine : Machine}
    (kept : machine.Sound ⟨session.types, promised, earlier⟩ 0) (operands : machine.operands = #[])
    (thrown : machine.thrown = #[])
    (tidy : ∀ handle, machine.store.heap.unclaimed handle = true → spare handle) :
    (session.withMachine machine).Sound promised earlier spare :=
  ⟨sound.alive, kept, operands, thrown, tidy⟩

def Handing (given : α → Handle → Prop) (result : α) (after : Session) : Prop :=
  ∀ handle, given result handle → after.machine.store.heap.Pins handle

theorem leads_native (sound : session.Sound promised earlier spare) {call : TypeRegistry → Call α}
    {given : α → Handle → Prop}
    (leads : ∀ {total} (state : CallState),
      state.Sound ⟨session.types, promised, earlier⟩ total →
      Leads (CallState.Sound ⟨session.types, promised, earlier⟩ total) (call session.types)
        (fun result after => ∀ handle, given result handle → after.store.heap.Pins handle) state) :
    Leads (Sound promised earlier spare) (native call) (Handing given) session := by
  apply leads_whenReady sound
  intro _
  have ran := Store.run_spec (leads _
    (Store.accounts_start sound.machine.accounts sound.machine.queued))
  obtain ⟨accounts, settled, results⟩ := ran
  have after := sound.withMachine (sound.machine.withStore accounts settled.queued) sound.operands
    sound.thrown fun _ unclaimed => (settled.claimed unclaimed).elim
  apply leads_ofResult after _
  intro value ended
  obtain ⟨state, pins, concluded⟩ := results value ended
  intro handle gives
  have pinned := Store.pins_conclude (pins handle gives)
  rw [← concluded] at pinned
  exact pinned

theorem leads_inspect (sound : session.Sound promised earlier spare)
    (look : Session → Heap Occupant → Except Fault α) :
    Leads (Sound promised earlier spare) (inspect look) (fun _ _ => True) session :=
  leads_whenReady sound fun _ => leads_ofResult sound _ fun _ _ => trivial

theorem leads_createObject (sound : session.Sound promised earlier spare) (typeName : String)
    (arguments : List HostValue) :
    Leads (Sound promised earlier spare) (createObject typeName arguments) (Handing Eq) session := by
  apply leads_whenReady sound
  intro _
  apply Leads.get_bind
  split
  · exact Leads.of_error sound _
  · rename_i typeId _
    refine leads_native sound fun state kept => ?_
    refine (Call.construct_keeps typeId arguments state kept).bind fun handle after keptAfter _ => ?_
    apply (Call.leads_pin keptAfter handle).bind
    intro _ last keptLast pinned
    exact Leads.of_ok keptLast fun other same => same ▸ pinned

theorem leads_insertObject (sound : session.Sound promised earlier spare) (type : HostType)
    (content : type.Content) :
    Leads (Sound promised earlier spare) (insertObject type content) (Handing Eq) session := by
  refine leads_native sound fun state kept => ?_
  refine Call.leads_ofResult kept fun occupant allocated => ?_
  apply (Call.insert_keeps (Call.allocate_fits allocated) state kept).bind
  intro handle after keptAfter _
  apply (Call.leads_pin keptAfter handle).bind
  intro _ last keptLast pinned
  exact Leads.of_ok keptLast fun other same => same ▸ pinned

def Names (value : HostValue) (handle : Handle) : Prop := value = .object handle

theorem leads_callMethod (sound : session.Sound promised earlier spare) (receiver : Handle)
    (name : String) (arguments : List HostValue) :
    Leads (Sound promised earlier spare) (callMethod receiver name arguments) (Handing Names)
      session := by
  refine leads_native sound fun state kept => ?_
  refine (Call.callMethod_keeps receiver name arguments state kept).bind
    fun value after keptAfter _ => ?_
  exact Call.leads_pinResult keptAfter value

theorem leads_getField (sound : session.Sound promised earlier spare) (receiver : Handle)
    (name : String) :
    Leads (Sound promised earlier spare) (getField receiver name) (Handing Names) session := by
  refine leads_native sound fun state kept => ?_
  refine (Call.getField_keeps receiver name state kept).bind fun value after keptAfter _ => ?_
  exact Call.leads_pinResult keptAfter value

theorem leads_setField (sound : session.Sound promised earlier spare) (receiver : Handle)
    (name : String) (value : HostValue) :
    Leads (Sound promised earlier spare) (setField receiver name value) (Handing fun _ _ => False)
      session := by
  refine leads_native sound fun state kept => ?_
  exact (Call.setField_keeps receiver name value state kept).mono fun _ _ _ _ _ none => none.elim

theorem leads_release (sound : session.Sound promised earlier spare) (handle : Handle)
    (free : ∀ typeId, ¬ promised handle typeId) :
    Leads (Sound promised earlier spare) (release handle) (fun _ _ => True) session := by
  apply leads_whenReady sound
  intro _
  apply leads_onMachine
  cases found : session.machine.store.heap.resident? handle with
  | none =>
      rw [Heap.unpin_eq_error found]
      exact sound
  | some resident =>
      rw [Heap.unpin_eq_ok found]
      have freed := @Machine.Sound.withStore _ _ _ sound.machine
        ⟨_, session.machine.store.generator⟩ (sound.machine.accounts.unpin found free)
        sound.machine.queued.unpin
      refine ⟨⟨sound.alive, freed, sound.operands, sound.thrown, fun other unclaimed => ?_⟩,
        trivial⟩
      obtain ⟨earlier, different⟩ := Heap.unclaimed_reclaim unclaimed
      have view := Heap.resident?_alter session.machine.store.heap handle Resident.unheld other
      rw [if_neg different] at view
      rw [Heap.unclaimed_congr view] at earlier
      exact sound.tidy other earlier

theorem leads_collect (sound : session.Sound promised earlier spare) :
    Leads (Sound promised earlier spare) collect (fun _ _ => True) session := by
  apply leads_whenReady sound
  intro _
  refine ⟨sound.withMachine sound.machine.collect sound.operands sound.thrown ?_, trivial⟩
  exact fun _ unclaimed => (sound.machine.queued.settled_collect.claimed unclaimed).elim

theorem extends_register {types types' : TypeRegistry} {descriptor : TypeDescriptor}
    (registered : types.register descriptor = .ok types') : types.ExtendsTo types' := by
  intro typeId known found
  unfold TypeRegistry.register at registered
  split at registered
  · cases registered
  · injection registered with same
    have bound : typeId < types.types.size := (Array.getElem?_eq_some_iff.mp found).1
    rw [← same, Array.getElem?_push_lt bound, ← found, Array.getElem?_eq_getElem bound]

theorem leads_registerType (sound : session.Sound promised earlier spare)
    (descriptor : TypeDescriptor) :
    Leads (Sound promised earlier spare) (registerType descriptor) (fun _ _ => True) session := by
  apply leads_whenReady sound
  intro _
  apply Leads.get_bind
  dsimp only
  split
  · exact Leads.of_error sound _
  · cases registered : session.types.register descriptor with
    | error fault => exact sound
    | ok types =>
        exact ⟨⟨sound.alive, sound.machine.extend (extends_register registered), sound.operands,
          sound.thrown, sound.tidy⟩, trivial⟩

theorem leads_addFunction (sound : session.Sound promised earlier spare) (space : String)
    (descriptor : FunctionDescriptor) :
    Leads (Sound promised earlier spare) (addFunction space descriptor) (fun _ _ => True) session := by
  apply Leads.get_bind
  cases session.functions.register space descriptor with
  | error fault => exact sound
  | ok functions =>
      exact ⟨⟨sound.alive, sound.machine, sound.operands, sound.thrown, sound.tidy⟩, trivial⟩

theorem leads_registerFunction (sound : session.Sound promised earlier spare)
    (descriptor : FunctionDescriptor) :
    Leads (Sound promised earlier spare) (registerFunction descriptor) (fun _ _ => True) session := by
  apply leads_whenReady sound
  intro _
  apply Leads.get_bind
  split
  · exact Leads.of_error sound _
  · exact leads_addFunction sound _ descriptor

theorem register_keeps (registration : Registration) :
    Keeps (Sound promised earlier spare) (register registration) := by
  intro session sound
  cases registration with
  | type descriptor =>
      exact (leads_registerType sound descriptor).bind fun _ _ sound _ => Leads.of_ok sound trivial
  | function descriptor => exact leads_registerFunction sound descriptor
  | moduleFunction space descriptor =>
      unfold register registerModuleFunction
      dsimp only
      split
      · exact leads_registerFunction sound descriptor
      · apply leads_whenReady sound
        intro _
        split
        · exact Leads.of_error sound _
        · exact leads_addFunction sound space descriptor

theorem leads_install (sound : session.Sound promised earlier spare) (extension : Extension) :
    Leads (Sound promised earlier spare) (install extension) (fun _ _ => True) session :=
  leads_whenReady sound fun _ =>
    Leads.forM (fun registration _ => register_keeps registration) sound

/-! ### Scripts -/

theorem readWith_eq (read : Surroundings → String → Except SyntaxFault Program) (text : String)
    (session : Session) :
    readWith read text session =
      match read session.surroundings text with
      | .ok script => .ok script { session with
          closures := session.closures.merge (script.functions.filter Function.isClosure) }
      | .error fault =>
          .error (.parse fault.message (some (lineText fault.position))) session := by
  have looked : readWith read text session =
      (match read session.surroundings text with
        | .ok script => do
            modify fun session => { session with
              closures := session.closures.merge (script.functions.filter Function.isClosure) }
            return script
        | .error fault => throw (.parse fault.message (some (lineText fault.position))) :
          Action Program) session := rfl
  rw [looked]
  cases read session.surroundings text with
  | ok script => rfl
  | error fault => rfl

theorem leads_readWith {inv : Session → Prop} (kept : inv session)
    {read : Surroundings → String → Except SyntaxFault Program} {text : String}
    {rest : Program → Action β} {final : β → Session → Prop}
    (later : ∀ script closures,
      Leads inv (rest script) final { session with closures := closures }) :
    Leads inv (readWith read text >>= rest) final session := by
  unfold Leads
  rw [bind_apply, readWith_eq]
  cases read session.surroundings text with
  | ok script => exact later script _
  | error fault => exact kept

theorem sound_outcome {covenant : Covenant} {machine : Machine}
    (sound : machine.Sound covenant 0) {work : Run Unit}
    (keeps : Keeps (Machine.Sound covenant 0) work) :
    (outcome work machine).2.Sound covenant 0 := by
  have counted : Machine.Sound covenant 0 { machine with operations := 0 } :=
    sound.shift rfl rfl rfl rfl
  have leads := keeps _ counted
  unfold Leads at leads
  unfold outcome
  cases ended : work { machine with operations := 0 } with
  | ok result after =>
      rw [ended] at leads
      exact leads.1
  | error halt after =>
      rw [ended] at leads
      cases halt <;> exact leads

/-- Running something leaves a sound machine, on which operands and thrown values may be left. -/
theorem leads_execute (sound : session.machine.Sound ⟨session.types, promised, earlier⟩ 0)
    {library : Library} {work : Run.Evaluator → Run Unit} {inv : Session → Prop}
    (keeps : ∀ {env : Environment} {self : Run.Evaluator},
      Run.Preserving (env.Safe promised earlier) self →
        Keeps (env.Safe promised earlier) (work self))
    {rest : Except Fault Unit → Action β} {final : β → Session → Prop}
    (later : ∀ outcome machine, machine.Sound ⟨session.types, promised, earlier⟩ 0 →
      Leads inv (rest outcome) final (session.withMachine machine)) :
    Leads inv (execute library work >>= rest) final session := by
  have ran := @sound_outcome ⟨session.types, promised, earlier⟩ session.machine sound _
    (keeps (@Run.evaluate_keeps (session.environment library) promised earlier
      (Run.stepBound (session.environment library).limits)))
  exact later _ _ ran

theorem sound_cleared {machine : Machine} (alive : session.phase ≠ .tornDown)
    (kept : machine.Sound ⟨session.types, promised, earlier⟩ 0) :
    (session.withMachine ((machine.dropTo 0).dropAllThrown).collect).Sound promised earlier
      spare := by
  have dropped := (kept.dropTo 0).dropAllThrown
  refine ⟨alive, dropped.collect, ?_, Machine.thrown_dropAllThrown _, fun _ unclaimed => ?_⟩
  · exact (Machine.operands_dropAllThrown _).trans (Machine.operands_dropTo_zero machine)
  · exact (dropped.queued.settled_collect.claimed unclaimed).elim

/-- What is delivered to the host is pinned, and the machine is cleared. -/
theorem leads_deliver {machine : Machine} (alive : session.phase ≠ .tornDown)
    (kept : machine.Sound ⟨session.types, promised, earlier⟩ 0) (outcome : Except Fault Unit) :
    Leads (Sound promised earlier spare) (deliver outcome) (Handing Names)
      (session.withMachine machine) := by
  cases outcome with
  | error fault => exact sound_cleared alive kept
  | ok _ =>
      obtain ⟨handed, pinned⟩ := kept.handOver
      apply leads_onMachine
      apply leads_onMachine
      apply leads_ofResult (sound_cleared alive handed) _
      intro value same handle names
      exact handed.pins (fun kept => ((kept.dropTo 0).dropAllThrown).collect)
        (pinned value same handle names)

theorem leads_eval (sound : session.Sound promised earlier spare) (text : String) :
    Leads (Sound promised earlier spare) (eval text) (Handing Names) session := by
  refine leads_whenReady sound fun _ => leads_readWith sound fun script closures => ?_
  have read : Sound promised earlier spare { session with closures := closures } :=
    ⟨sound.alive, sound.machine, sound.operands, sound.thrown, sound.tidy⟩
  apply Leads.get_bind
  refine leads_execute read.machine (fun keeps => Run.block_keeps keeps _ _)
    fun outcome machine ran => ?_
  exact leads_deliver read.alive ran outcome

theorem leads_global (sound : session.Sound promised earlier spare) (name : String) :
    Leads (Sound promised earlier spare) (global name) (Handing Names) session := by
  apply leads_whenReady sound
  intro _
  apply Leads.get_bind
  split
  · exact leads_onMachine (leads_deliver sound.alive (sound.machine.copy _) _)
  · exact leads_deliver sound.alive sound.machine _

/-- A script that has come to its end leaves what it has thrown, on a settled heap. -/
theorem runToEnd_cases (sound : session.Sound promised earlier spare) (text : String) :
    (∃ fault, runToEnd text session = .error fault session) ∨
      ∃ outcome closures library machine,
        runToEnd text session =
          .ok outcome { session with closures := closures, library := library, machine := machine } ∧
        machine.Sound ⟨session.types, promised, earlier⟩ 0 ∧ machine.operands = #[] ∧
        machine.store.heap.Settled := by
  unfold runToEnd
  rw [bind_apply, readWith_eq]
  cases Program.read session.surroundings text with
  | error fault => exact .inl ⟨_, rfl⟩
  | ok script =>
      let env : Environment := ⟨session.types, session.functions,
        session.library.merge script.functions,
        session.closures.merge (script.functions.filter Function.isClosure),
        session.configuration.limits⟩
      have keeps := @Run.evaluate_keeps env promised earlier (Run.stepBound env.limits)
      have ran := sound_outcome sound.machine (Run.block_keeps keeps .outermost script.body)
      refine .inr ⟨_, _, _, _, rfl, (ran.dropTo 0).collect, Machine.operands_dropTo_zero _, ?_⟩
      exact (ran.dropTo 0).queued.settled_collect

theorem leads_run (sound : session.Sound promised earlier spare) (all : ∀ handle, spare handle)
    (text : String) :
    Leads (Sound promised earlier spare) (run text) (fun _ _ => True) session := by
  apply leads_whenReady sound
  intro _
  rcases runToEnd_cases sound text with
    ⟨fault, failed⟩ | ⟨outcome, closures, library, machine, ended, kept, operands, settled⟩
  · unfold Leads
    rw [bind_apply, failed]
    exact sound
  · unfold Leads
    rw [bind_apply, ended]
    have cleared : Sound promised earlier spare { session with
        closures := closures
        library := library
        machine := machine.dropAllThrown } :=
      ⟨sound.alive, kept.dropAllThrown, (Machine.operands_dropAllThrown _).trans operands,
        Machine.thrown_dropAllThrown _, fun handle _ => all handle⟩
    exact leads_onMachine (leads_ofResult cleared _ fun _ _ => trivial)

theorem leads_runFile (sound : session.Sound promised earlier spare)
    (all : ∀ handle, spare handle) (file : SourceFile) :
    Leads (Sound promised earlier spare) (runFile file) (fun _ _ => True) session := by
  apply leads_whenReady sound
  intro _
  cases file.text with
  | ok text => exact leads_run sound all text
  | error fault => exact sound

theorem leads_bind {machine : Machine} (alive : session.phase ≠ .tornDown)
    (kept : machine.Sound ⟨session.types, promised, earlier⟩ 0)
    (operands : machine.operands.pop = #[]) (thrown : machine.thrown = #[])
    (all : ∀ handle, spare handle) (name : String) :
    Leads (Sound promised earlier spare) (bind name) (fun _ _ => True)
      (session.withMachine machine) := by
  apply Leads.get_bind
  dsimp only
  split
  · exact ⟨⟨alive, kept.declare name false, operands, thrown, fun handle _ => all handle⟩, trivial⟩
  · rename_i index found
    split
    · refine leads_onMachine ⟨alive, kept.dropTo 0, Machine.operands_dropTo_zero machine, ?_,
        fun handle _ => all handle⟩
      rw [← thrown]
      exact Machine.thrown_dropTo 0 machine
    · refine ⟨⟨alive, kept.redeclare index false, ?_, ?_, fun handle _ => all handle⟩, trivial⟩
      · rw [← operands]
        exact Machine.operands_redeclare machine index false
      · rw [← thrown]
        exact Machine.thrown_redeclare machine index false

theorem leads_setGlobal (sound : session.Sound promised earlier spare)
    (all : ∀ handle, spare handle) (name : String) (value : HostValue) :
    Leads (Sound promised earlier spare) (setGlobal name value) (fun _ _ => True) session := by
  apply leads_whenReady sound
  intro _
  split
  · exact Leads.of_error sound _
  · apply leads_onMachine
    have received := sound.machine.receive value
    rcases Machine.receive_cases session.machine value with
      ⟨fault, refused⟩ | ⟨store, script, leaf, pins, accepted⟩
    · rw [refused]
      exact sound
    · rw [accepted] at received ⊢
      refine leads_bind sound.alive received ?_ sound.thrown all name
      rw [sound.operands]
      rfl

/-! ### Calls of script functions -/

theorem discarded_eq {machine after : Machine} (lends : Machine.Lends machine after)
    (empty : machine.operands = #[]) :
    ∃ store, receiveAll.discardArguments after = { machine with store := store } :=
  (lends.spendAll (List.range after.operands.size)).dropAll empty

theorem pinned?_discardArguments (machine : Machine) :
    (receiveAll.discardArguments machine).store.heap.pinned? = machine.store.heap.pinned? := by
  have spent := Machine.aside_spendAll (List.range machine.operands.size) machine
  have dropped := Machine.aside_dropTo 0 (machine.spendAll (List.range machine.operands.size))
  exact congrArg (fun aside => aside.2.2.2) (dropped.trans spent)

/-- After the arguments from the host, or some of them, everything is sound, and giving them up
leaves what there was before. -/
theorem receiveAll_cases (values : List HostValue) {covenant : Covenant} {machine after : Machine}
    (sound : after.Sound covenant 0) (lends : Machine.Lends machine after)
    (pins : after.store.heap.pinned? = machine.store.heap.pinned?) :
    ∃ later, later.Sound covenant 0 ∧ Machine.Lends machine later ∧
      later.store.heap.pinned? = machine.store.heap.pinned? ∧
      (receiveAll values after = (.ok (), later) ∨
        ∃ fault, receiveAll values after = (.error fault, receiveAll.discardArguments later)) := by
  induction values generalizing after with
  | nil => exact ⟨after, sound, lends, pins, .inl rfl⟩
  | cons value rest ih =>
      have received := sound.receive value
      unfold receiveAll
      rcases Machine.receive_cases after value with
        ⟨fault, refused⟩ | ⟨store, script, leaf, kept, accepted⟩
      · rw [refused]
        exact ⟨after, sound, lends, pins, .inr ⟨fault, rfl⟩⟩
      · rw [accepted] at received ⊢
        obtain ⟨_, operands, rfl, leaves⟩ := lends
        refine ih received ⟨store, operands.push script, rfl, fun other member => ?_⟩
          (kept.trans pins)
        rcases Array.mem_push.mp member with earlier | rfl
        · exact leaves other earlier
        · exact leaf

theorem sound_discarded {machine : Machine} (sound : session.Sound promised earlier spare)
    (kept : machine.Sound ⟨session.types, promised, earlier⟩ 0)
    (lends : Machine.Lends session.machine machine)
    (pins : machine.store.heap.pinned? = session.machine.store.heap.pinned?) :
    (session.withMachine (receiveAll.discardArguments machine)).Sound promised earlier spare := by
  have dropped : (receiveAll.discardArguments machine).Sound
      ⟨session.types, promised, earlier⟩ 0 := (kept.spendAll _).dropTo 0
  have pinsDropped := (pinned?_discardArguments machine).trans pins
  obtain ⟨store, same⟩ := discarded_eq lends sound.operands
  rw [same] at dropped pinsDropped ⊢
  refine ⟨sound.alive, dropped, sound.operands, sound.thrown, fun handle unclaimed => ?_⟩
  rcases sound.machine.unclaimed_or_loses dropped pinsDropped unclaimed with
    earlier | ⟨_, referenced, unreferenced⟩
  · exact sound.tidy handle earlier
  · exact absurd referenced unreferenced

theorem leads_call (sound : session.Sound promised earlier spare) (name : String)
    (arguments : List HostValue) :
    Leads (Sound promised earlier spare) (call name arguments) (Handing Names) session := by
  apply leads_whenReady sound
  intro _
  apply leads_onMachine
  have lent : Machine.Lends session.machine session.machine := by
    refine ⟨session.machine.store, session.machine.operands, rfl, fun value member => ?_⟩
    rw [sound.operands] at member
    exact absurd member (Array.not_mem_empty value)
  obtain ⟨machine, kept, lends, pins, received | ⟨fault, received⟩⟩ :=
    receiveAll_cases arguments sound.machine lent rfl
  · rw [received]
    apply Leads.get_bind
    apply Leads.get_bind
    dsimp only
    split
    · rename_i function _
      refine leads_execute kept (fun keeps => Run.callFromHost_keeps keeps function _)
        fun result machine ran => ?_
      exact leads_deliver sound.alive ran result
    · exact sound_discarded sound kept lends pins
  · rw [received]
    exact sound_discarded sound kept lends pins

theorem leads_start (sound : session.Sound promised earlier spare) :
    Leads (Sound promised earlier spare) start (fun _ _ => True) session := by
  unfold Leads start
  cases phase : session.phase with
  | uninitialized => exact ⟨⟨nofun, sound.machine, sound.operands, sound.thrown, sound.tidy⟩, trivial⟩
  | ready => exact sound
  | tornDown => exact sound

theorem leads_takeOutput (sound : session.Sound promised earlier spare) :
    Leads (Sound promised earlier spare) takeOutput (fun _ _ => True) session :=
  ⟨⟨sound.alive, sound.machine.shift rfl rfl rfl rfl, sound.operands, sound.thrown, sound.tidy⟩, trivial⟩

/-- Whether an operation may leave an instance without a claim. -/
def Operation.MayLeave : Operation → Prop
  | .run _ | .runFile _ | .setGlobal _ _ => True
  | _ => False

def Reply.Gives (reply : Reply) (target : Handle) : Prop :=
  match reply with
  | .handle given => given = target
  | .value given => Names given target
  | _ => False

theorem leads_done {inv : Session → Prop} {action : Action Unit}
    (leads : Leads inv action (fun _ _ => True) session) :
    Leads inv (done action) (Handing Reply.Gives) session :=
  leads.bind fun _ _ kept _ => Leads.of_ok kept fun _ none => none.elim

theorem leads_perform (sound : session.Sound promised earlier spare) (operation : Operation)
    (alive : operation ≠ .teardown)
    (free : ∀ handle typeId, operation = .release handle → ¬ promised handle typeId)
    (untidy : operation.MayLeave → ∀ handle, spare handle) :
    Leads (Sound promised earlier spare) operation.perform (Handing Reply.Gives) session := by
  cases operation with
  | start => exact leads_done (leads_start sound)
  | teardown => exact absurd rfl alive
  | register registration => exact leads_done (register_keeps registration session sound)
  | install extension => exact leads_done (leads_install sound extension)
  | run text => exact leads_done (leads_run sound (untidy trivial) text)
  | runFile file => exact leads_done (leads_runFile sound (untidy trivial) file)
  | eval text => exact Leads.map (leads_eval sound text)
  | global name => exact Leads.map (leads_global sound name)
  | setGlobal name value => exact leads_done (leads_setGlobal sound (untidy trivial) name value)
  | call name arguments => exact Leads.map (leads_call sound name arguments)
  | hasFunction name => exact Leads.get_bind (Leads.of_ok sound fun _ none => none.elim)
  | createObject name arguments => exact Leads.map (leads_createObject sound name arguments)
  | insertObject body => exact Leads.map (leads_insertObject sound body.type body.content)
  | readObject handle type =>
      exact (leads_inspect sound _).bind fun _ _ kept _ => Leads.of_ok kept fun _ none => none.elim
  | callMethod receiver name arguments =>
      exact Leads.map (leads_callMethod sound receiver name arguments)
  | getField receiver name => exact Leads.map (leads_getField sound receiver name)
  | setField receiver name value =>
      exact leads_done ((leads_setField sound receiver name value).mono fun _ _ _ _ => trivial)
  | typeName handle =>
      exact Leads.map ((leads_inspect sound _).mono fun _ _ _ _ _ none => none.elim)
  | isLive handle => exact Leads.get_bind (Leads.of_ok sound fun _ none => none.elim)
  | release handle => exact leads_done (leads_release sound handle fun typeId =>
      free handle typeId rfl)
  | collect => exact Leads.map ((leads_collect sound).mono fun _ _ _ _ _ none => none.elim)
  | takeOutput =>
      exact Leads.map ((leads_takeOutput sound).mono fun _ _ _ _ _ none => none.elim)
  | statistics => exact Leads.get_bind (Leads.of_ok sound fun _ none => none.elim)
  | phase => exact Leads.get_bind (Leads.of_ok sound fun _ none => none.elim)

end Session
end ScriptHost
