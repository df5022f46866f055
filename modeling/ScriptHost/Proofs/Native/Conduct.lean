import ScriptHost.Proofs.Native.Typing
import ScriptHost.Proofs.Native.Writes

/-!
The conduct of native bodies.

A native body can insert instances, store what is in them, and draw random numbers. Whoever is
careful about what it inserts and stores, as long as what it finds there has been in order, and
about what it draws, keeps in order whatever store it meets: nothing else is in the power of a body,
and the collections around a call only take instances away.
-/

set_option autoImplicit false

namespace ScriptHost

open Script

variable {α β : Type}

/-- What an instance may hold, and what may be drawn. -/
structure Conduct where
  sound : Instance → Prop
  draws : Sampler → Prop

/-- On sound instances, a routine inserts sound instances only, it draws nothing else but what may
be drawn, and its result meets a condition. -/
def Routine.Obeys (conduct : Conduct) (meets : α → Prop) : Routine α → Prop
  | .done result => meets result
  | .fail _ => True
  | .allocate type content next =>
      conduct.sound ⟨type, content⟩ ∧ ∀ answer, (next answer).Obeys conduct meets
  | .read type _ next =>
      ∀ answer, (∀ content, answer = .ok content → conduct.sound ⟨type, content⟩) →
        (next answer).Obeys conduct meets
  | .recognise _ _ next => ∀ answer, (next answer).Obeys conduct meets
  | .nameType _ next => ∀ answer, (next answer).Obeys conduct meets
  | .countLive next => ∀ answer, (next answer).Obeys conduct meets
  | .draw sampler next => conduct.draws sampler ∧ ∀ answer, (next answer).Obeys conduct meets

namespace Routine

variable {conduct : Conduct} {meets : α → Prop} {final : β → Prop}

theorem obeys_ofResult {result : Except Fault α} (met : ∀ value, result = .ok value → meets value) :
    (ofResult result).Obeys conduct meets := by
  cases result with
  | ok value => exact met value rfl
  | error fault => trivial

theorem Obeys.bind {first : Routine α} {rest : α → Routine β} (obeys : first.Obeys conduct meets)
    (later : ∀ result, meets result → (rest result).Obeys conduct final) :
    (first >>= rest).Obeys conduct final := by
  change (first.bind rest).Obeys conduct final
  induction first with
  | done result => exact later result obeys
  | fail fault => trivial
  | allocate type content next ih => exact ⟨obeys.1, fun answer => ih answer (obeys.2 answer)⟩
  | read type value next ih => exact fun answer sound => ih answer (obeys answer sound)
  | recognise _ _ _ ih | nameType _ _ ih | countLive _ ih =>
      exact fun answer => ih answer (obeys answer)
  | draw sampler next ih => exact ⟨obeys.1, fun answer => ih answer (obeys.2 answer)⟩

theorem obeys_result {result : Except Fault α} {rest : α → Routine β}
    (later : ∀ value, result = .ok value → (rest value).Obeys conduct final) :
    (ofResult result >>= rest).Obeys conduct final :=
  (obeys_ofResult fun _ same => same).bind later

theorem obeys_new {type : HostType} {content : type.Content}
    (sound : conduct.sound ⟨type, content⟩) :
    (new type content).Obeys conduct fun _ => True :=
  ⟨sound, fun _ => obeys_ofResult fun _ _ => trivial⟩

theorem obeys_contentOf (type : HostType) (value : HostValue) :
    (contentOf type value).Obeys conduct fun content => conduct.sound ⟨type, content⟩ :=
  fun _ sound => obeys_ofResult sound

theorem obeys_isInstance (type : HostType) (value : HostValue) :
    (isInstance type value).Obeys conduct fun _ => True :=
  fun _ => trivial

theorem obeys_typeNameOf (value : HostValue) :
    (typeNameOf value).Obeys conduct fun _ => True :=
  fun _ => obeys_ofResult fun _ _ => trivial

theorem obeys_random {sampler : Sampler} (draws : conduct.draws sampler) :
    (random sampler).Obeys conduct fun _ => True :=
  ⟨draws, fun _ => obeys_ofResult fun _ _ => trivial⟩

end Routine

def FunctionDescriptor.Obeys (conduct : Conduct) (descriptor : FunctionDescriptor) : Prop :=
  ∀ arguments, (descriptor.body arguments).Obeys conduct fun _ => True

/-- A type whose bodies obey, and whose setters store sound contents in place of sound ones. -/
structure TypeDescriptor.Obeys (conduct : Conduct) (descriptor : TypeDescriptor) : Prop where
  constructors : ∀ constructor ∈ descriptor.constructors, ∀ arguments,
    (constructor.build arguments).Obeys conduct fun content =>
      conduct.sound ⟨descriptor.type, content⟩
  writes : ∀ entry ∈ descriptor.fields, ∀ write, entry.2.write? = some write →
    ∀ content value, conduct.sound ⟨descriptor.type, content⟩ →
      conduct.sound ⟨descriptor.type, (write content value).1⟩
  methods : ∀ entry ∈ descriptor.methods, ∀ content arguments,
    conduct.sound ⟨descriptor.type, content⟩ →
      (entry.2.call content arguments).Obeys conduct fun _ => True
  operators : ∀ entry ∈ descriptor.operators, ∀ left right,
    (entry.apply left right).Obeys conduct fun _ => True

def TypeRegistry.Obeys (conduct : Conduct) (types : TypeRegistry) : Prop :=
  ∀ descriptor ∈ types.types, descriptor.Obeys conduct

theorem mem_of_lastNamed {name : String} {entries : List (String × α)} {entry : α}
    (last : lastNamed name entries = some entry) : (name, entry) ∈ entries := by
  obtain ⟨later, earlier, reversed, _⟩ := List.lookup_eq_some_iff.mp last
  rw [← List.mem_reverse, reversed]
  exact List.mem_append_right _ List.mem_cons_self

namespace TypeDescriptor

variable {descriptor : TypeDescriptor} {name : String}

theorem mem_of_selectConstructor {arguments : List HostValue}
    {constructor : Constructor descriptor.type}
    (selected : descriptor.selectConstructor arguments = .ok constructor) :
    constructor ∈ descriptor.constructors := by
  unfold selectConstructor at selected
  dsimp only at selected
  split at selected
  · cases selected
  · split at selected
    · rename_i found
      cases selected
      exact (List.mem_filter.mp (List.mem_of_find?_eq_some found)).1
    · split at selected <;> cases selected

theorem mem_of_method {method : Method descriptor.type}
    (named : descriptor.method name = .ok method) : (name, method) ∈ descriptor.methods := by
  unfold TypeDescriptor.method at named
  split at named
  · cases named
    exact mem_of_lastNamed ‹_›
  · cases named

theorem mem_of_field {field : Field descriptor.type}
    (named : descriptor.field name = .ok field) : (name, field) ∈ descriptor.fields := by
  unfold TypeDescriptor.field at named
  split at named
  · cases named
    exact mem_of_lastNamed ‹_›
  · cases named

theorem body_of_contentOf {body : Instance} {content : descriptor.type.Content}
    (held : descriptor.contentOf body = .ok content) : body = ⟨descriptor.type, content⟩ := by
  unfold contentOf at held
  split at held
  · cases held
    exact Instance.eq_of_as? ‹_›
  · cases held

end TypeDescriptor

theorem Call.mem_of_findOperator {types : TypeRegistry} {operator : Operator} {left : Operand}
    {right? : Option Operand} {owners : List TypeId} {owner? : Option TypeDescriptor}
    {entry : OperatorEntry}
    (found : findOperator types operator left right? owners = .ok (owner?, some entry)) :
    ∃ descriptor ∈ types.types, entry ∈ descriptor.operators := by
  induction owners generalizing owner? with
  | nil => cases found
  | cons owner rest ih =>
      obtain ⟨descriptor, known, found⟩ := of_bind_ok found
      split at found
      · rename_i first
        cases found
        exact ⟨descriptor, Array.mem_of_getElem? (TypeRegistry.get_eq_ok known),
          List.mem_of_find?_eq_some first⟩
      · obtain ⟨⟨_, _⟩, later, same⟩ := of_bind_ok found
        cases same
        exact ih later

/-- A condition on stores under which instances are sound, and which sound instances and proper
draws keep. -/
structure Conduct.Upholds (conduct : Conduct) (kept : Store → Prop) : Prop where
  sound : ∀ {store : Store} {handle : Handle} {occupant : Occupant}, kept store →
    store.heap.content? handle = some occupant → conduct.sound occupant.body
  rests : ∀ {store : Store} {heap : Heap Occupant}, heap.bare = store.heap.bare → kept store →
    kept ⟨heap, store.generator⟩
  inserts : ∀ {store : Store} {occupant : Occupant}, conduct.sound occupant.body → kept store →
    kept ⟨(store.heap.insert occupant false).2, store.generator⟩
  stores : ∀ {store : Store} (handle : Handle) {occupant : Occupant},
    conduct.sound occupant.body → kept store →
      kept ⟨store.heap.replace handle occupant, store.generator⟩
  removes : ∀ {store : Store} (handle : Handle), kept store →
    kept ⟨store.heap.remove handle, store.generator⟩
  draws : ∀ {store : Store} {sampler : Sampler} {number : Float} {generator : Random.Generator},
    conduct.draws sampler → sampler.sample store.generator = .ok (number, generator) →
      kept store → kept ⟨store.heap, generator⟩

namespace Conduct.Upholds

variable {conduct : Conduct} {kept : Store → Prop} (upholds : conduct.Upholds kept)

include upholds

theorem alters {store : Store} (handle : Handle) {change : Resident Occupant → Resident Occupant}
    (same : ∀ resident, (change resident).content = resident.content) (before : kept store) :
    kept ⟨store.heap.alter handle change, store.generator⟩ :=
  upholds.rests (Heap.bare_alter _ handle same) before

theorem sweeps {store : Store} (handles : List Handle) (freed : Nat) (before : kept store) :
    kept ⟨(Heap.sweep handles freed store.heap).2, store.generator⟩ := by
  induction handles generalizing store freed with
  | nil => exact before
  | cons handle rest ih =>
      unfold Heap.sweep
      split
      · exact ih (freed + 1) (upholds.removes handle before)
      · exact ih freed before

theorem collects {store : Store} (before : kept store) : kept store.collect :=
  upholds.sweeps store.heap.released.toList 0
    (@rests _ _ upholds store ⟨store.heap.slots, store.heap.free, store.heap.live, #[]⟩ rfl before)

theorem concludes {state : CallState} (before : kept state.store) :
    kept (Store.conclude state) :=
  upholds.collects (upholds.sweeps state.fresh.toList 0 before)

end Conduct.Upholds

namespace Call

variable {conduct : Conduct} {kept : Store → Prop} {types : TypeRegistry} {heap : Heap Occupant}

/-- A property of stores as one of calls under way. -/
def Keeping (kept : Store → Prop) (state : CallState) : Prop :=
  kept state.store

theorem body_of_allocate {type : HostType} {content : type.Content} {occupant : Occupant}
    (allocated : allocate types type content = .ok occupant) : occupant.body = ⟨type, content⟩ := by
  unfold allocate at allocated
  split at allocated
  · cases allocated
    rfl
  · cases allocated

theorem sound_of_read {type : HostType} {handle : Handle} {content : type.Content}
    (sound : ∀ {handle occupant}, heap.content? handle = some occupant →
      conduct.sound occupant.body)
    (answered : read types type handle heap = .ok content) : conduct.sound ⟨type, content⟩ := by
  obtain ⟨resident, got, answered⟩ := of_bind_ok answered
  have found := Heap.content?_eq_some_iff.mpr ⟨resident, Heap.get_eq_ok_iff.mp got, rfl⟩
  dsimp only at answered
  split at answered
  · split at answered
    · rename_i held
      cases answered
      exact Instance.eq_of_as? held ▸ sound found
    · cases answered
  · cases answered

section Upholding

variable (upholds : conduct.Upholds kept)

include upholds

theorem draw_obeys {sampler : Sampler} (draws : conduct.draws sampler) {state : CallState}
    (before : Keeping kept state) : Keeping kept (draw sampler state).2 := by
  unfold draw
  split
  · exact upholds.draws draws ‹_› before
  · exact before

theorem perform_obeys {meets : α → Prop} {routine : Routine α}
    (obeys : routine.Obeys conduct meets) {state : CallState} (before : Keeping kept state) :
    Leads (Keeping kept) (perform types routine) (fun result _ => meets result) state := by
  induction routine generalizing state with
  | done result => exact Leads.of_ok before obeys
  | fail fault => exact Leads.of_error before fault
  | allocate type content next ih =>
      unfold Leads perform
      cases allocated : Call.allocate types type content with
      | error fault => exact ih _ (obeys.2 _) before
      | ok occupant =>
          have sound : conduct.sound occupant.body := body_of_allocate allocated ▸ obeys.1
          exact ih _ (obeys.2 _) (upholds.inserts sound before)
  | read type value next ih =>
      refine ih _ (obeys _ fun content answered => ?_) before
      obtain ⟨handle, _, answered⟩ := of_bind_ok answered
      exact sound_of_read (upholds.sound before) answered
  | recognise _ _ _ ih | nameType _ _ ih | countLive _ ih => exact ih _ (obeys _) before
  | draw sampler next ih =>
      have drawn := draw_obeys upholds obeys.1 before
      unfold Leads perform
      dsimp only
      generalize Call.draw sampler state = outcome at drawn ⊢
      obtain ⟨answer, after⟩ := outcome
      exact ih answer (obeys.2 _) drawn

theorem pin_obeys (handle : Handle) : Keeps (Keeping kept) (pin handle) := by
  intro state before
  unfold Leads pin withHeap
  dsimp only
  cases found : state.store.heap.resident? handle with
  | none =>
      rw [Heap.pin_eq_error found]
      exact before
  | some resident =>
      rw [Heap.pin_eq_ok found]
      exact ⟨upholds.alters handle (fun _ => rfl) before, trivial⟩

theorem pinResult_obeys (value : HostValue) : Keeps (Keeping kept) (pinResult value) := by
  cases value with
  | object handle => exact (pin_obeys upholds handle).bind fun _ => Keeps.of_ok _
  | _ => exact Keeps.of_ok _

theorem toScript_obeys (value : HostValue) : Keeps (Keeping kept) (toScript value) := by
  intro state before
  obtain ⟨⟨heap, generator⟩, fresh⟩ := state
  unfold Leads toScript
  dsimp only
  cases entered : value.toScript heap with
  | error fault => exact before
  | ok result =>
      obtain ⟨script, after⟩ := result
      refine ⟨?_, trivial⟩
      rcases toScript_cases entered with ⟨_, _, rfl⟩ | ⟨handle, _, _, _, rfl⟩
      · exact before
      · exact @Conduct.Upholds.alters _ _ upholds ⟨heap, generator⟩ handle Resident.anchored
          (fun _ => rfl) before

end Upholding

def Entry.Obeys (conduct : Conduct) : Entry → Prop
  | construct _ descriptor constructor arguments =>
      (constructor.build arguments).Obeys conduct fun content =>
        conduct.sound ⟨descriptor.type, content⟩
  | method _ _ called content arguments =>
      (called.call content arguments).Obeys conduct fun _ => True
  | read _ _ _ _ => True
  | write _ _ descriptor change content value =>
      conduct.sound ⟨descriptor.type, (change content value).1⟩
  | operator entry left right? =>
      (entry.apply left (right?.getD .null)).Obeys conduct fun _ => True
  | function descriptor arguments => (descriptor.body arguments).Obeys conduct fun _ => True

theorem Entry.run_obeys (upholds : conduct.Upholds kept) {entry : Entry}
    (obeys : entry.Obeys conduct) {state : CallState} (before : Keeping kept state) :
    Leads (Keeping kept) (entry.run types) (fun _ _ => True) state := by
  have weaken {routine : Routine HostValue} (obeys : routine.Obeys conduct fun _ => True) :
      Leads (Keeping kept) (perform types routine) (fun _ _ => True) state :=
    perform_obeys upholds obeys before
  cases entry with
  | construct typeId descriptor constructor arguments =>
      apply (perform_obeys upholds obeys before).bind
      intro content after kept sound
      exact ⟨upholds.inserts sound kept, trivial⟩
  | method receiver descriptor method content arguments => exact weaken obeys
  | read owner descriptor field content => exact Leads.of_ok before trivial
  | write owner typeId descriptor change content value =>
      exact leads_write (upholds.stores owner obeys before)
  | operator entry left right? => exact weaken obeys
  | function descriptor arguments => exact weaken obeys

section Checks

variable {entry : Entry} (obeys : types.Obeys conduct)
  (sound : ∀ {handle occupant}, heap.content? handle = some occupant → conduct.sound occupant.body)

include obeys

theorem obeys_of_get {typeId : TypeId} {descriptor : TypeDescriptor}
    (known : types.get typeId = .ok descriptor) : descriptor.Obeys conduct :=
  obeys descriptor (Array.mem_of_getElem? (TypeRegistry.get_eq_ok known))

theorem obeys_of_described {owner : Handle} {found : TypeDescriptor × Occupant}
    (known : described types heap owner = .ok found) : found.1.Obeys conduct := by
  obtain ⟨resident, _, known⟩ := of_bind_ok known
  obtain ⟨descriptor, registered, known⟩ := of_bind_ok known
  cases known
  exact obeys_of_get obeys registered

theorem obeys_construct {typeId : TypeId} {arguments : List HostValue}
    (admitted : checkConstruct types typeId arguments = .ok entry) : entry.Obeys conduct := by
  obtain ⟨descriptor, known, admitted⟩ := of_bind_ok admitted
  obtain ⟨constructor, selected, admitted⟩ := of_bind_ok admitted
  cases admitted
  exact (obeys_of_get obeys known).constructors constructor
    (TypeDescriptor.mem_of_selectConstructor selected) arguments

theorem obeys_operator {operator : Operator} {left : HostValue} {right? : Option HostValue}
    (admitted : checkOperator types heap operator left right? = .ok entry) :
    entry.Obeys conduct := by
  obtain ⟨leftOperand, _, admitted⟩ := of_bind_ok admitted
  obtain ⟨rightOperand?, _, admitted⟩ := of_bind_ok admitted
  obtain ⟨⟨owner?, entry?⟩, found, admitted⟩ := of_bind_ok admitted
  cases entry? with
  | none => cases admitted
  | some entry =>
      cases admitted
      obtain ⟨descriptor, registered, member⟩ := mem_of_findOperator found
      exact (obeys descriptor registered).operators entry member _ _

omit obeys in
theorem obeys_read {owner : Handle} {name : String}
    (admitted : checkRead types heap owner name = .ok entry) : entry.Obeys conduct := by
  obtain ⟨found, _, admitted⟩ := of_bind_ok admitted
  obtain ⟨field, _, admitted⟩ := of_bind_ok admitted
  obtain ⟨content, _, admitted⟩ := of_bind_ok admitted
  cases admitted
  trivial

include sound

theorem obeys_method {receiver : Handle} {name : String} {arguments : List HostValue}
    (admitted : checkMethod types heap receiver name arguments = .ok entry) :
    entry.Obeys conduct := by
  obtain ⟨found, known, admitted⟩ := of_bind_ok admitted
  obtain ⟨method, named, admitted⟩ := of_bind_ok admitted
  obtain ⟨_, _, admitted⟩ := of_bind_ok admitted
  obtain ⟨content, read, admitted⟩ := of_bind_ok admitted
  cases admitted
  exact (obeys_of_described obeys known).methods _ (TypeDescriptor.mem_of_method named) content
    arguments (sound_of_read sound read)

theorem obeys_write {owner : Handle} {name : String} {value : HostValue}
    (admitted : checkWrite types heap owner name value = .ok entry) : entry.Obeys conduct := by
  obtain ⟨found, known, admitted⟩ := of_bind_ok admitted
  obtain ⟨field, named, admitted⟩ := of_bind_ok admitted
  split at admitted
  · cases admitted
  · rename_i write writes
    obtain ⟨_, _, admitted⟩ := of_bind_ok admitted
    obtain ⟨content, held, admitted⟩ := of_bind_ok admitted
    cases admitted
    have body := sound (content?_of_described known)
    rw [TypeDescriptor.body_of_contentOf held] at body
    exact (obeys_of_described obeys known).writes _ (TypeDescriptor.mem_of_field named) write
      writes content value body

omit obeys sound in
theorem obeys_function {function : FunctionDescriptor} {arguments : List Value}
    (obeys : function.Obeys conduct)
    (admitted : checkScriptFunction heap function arguments = .ok entry) :
    entry.Obeys conduct := by
  unfold checkScriptFunction at admitted
  split at admitted
  · split at admitted
    · obtain ⟨given, _, same⟩ := of_bind_ok admitted
      cases same
      exact obeys given
    · cases admitted
  · obtain ⟨given, _, same⟩ := of_bind_ok admitted
    cases same
    exact obeys given

theorem Request.obeys_of_check {request : Request}
    (function : ∀ descriptor arguments, request = .function descriptor arguments →
      descriptor.Obeys conduct)
    (admitted : request.check types heap = .ok entry) : entry.Obeys conduct := by
  cases request with
  | construct typeId arguments =>
      obtain ⟨given, _, admitted⟩ := of_bind_ok admitted
      exact obeys_construct obeys admitted
  | method receiver name arguments =>
      obtain ⟨found, _, admitted⟩ := of_bind_ok admitted
      obtain ⟨method, _, admitted⟩ := of_bind_ok admitted
      obtain ⟨given, _, admitted⟩ := of_bind_ok admitted
      exact obeys_method obeys sound admitted
  | read owner field => exact obeys_read admitted
  | write owner field value =>
      obtain ⟨found, _, admitted⟩ := of_bind_ok admitted
      obtain ⟨declared, _, admitted⟩ := of_bind_ok admitted
      obtain ⟨given, _, admitted⟩ := of_bind_ok admitted
      exact obeys_write obeys sound admitted
  | operator symbol left right =>
      obtain ⟨left, _, admitted⟩ := of_bind_ok admitted
      obtain ⟨right, _, admitted⟩ := of_bind_ok admitted
      exact obeys_operator obeys admitted
  | negation operand => exact obeys_operator obeys admitted
  | function descriptor arguments => exact obeys_function (function _ _ rfl) admitted

end Checks

end Call

namespace Store

open Call

variable {conduct : Conduct} {kept : Store → Prop} {types : TypeRegistry} {store : Store}
  (upholds : conduct.Upholds kept)

include upholds

theorem run_upholds {call : Call α} (keeps : Keeps (Keeping kept) call) (before : kept store) :
    kept (run call store).2 := by
  have leads := keeps ⟨store.collect, #[]⟩ (upholds.collects before)
  unfold Leads at leads
  unfold run
  cases ended : call ⟨store.collect, #[]⟩ with
  | ok value state =>
      rw [ended] at leads
      exact upholds.concludes leads.1
  | error fault state =>
      rw [ended] at leads
      exact upholds.concludes leads

theorem run_entry {checked : Except Fault Entry} {finish : HostValue → Call α}
    (finishes : ∀ value, Keeps (Keeping kept) (finish value))
    (obeys : ∀ entry, checked = .ok entry → entry.Obeys conduct) (before : kept store) :
    kept (run ((ofResult checked >>= Entry.run types) >>= finish) store).2 := by
  apply run_upholds upholds _ before
  intro state within
  apply Leads.bind
  · exact leads_ofResult within fun entry admitted =>
      Entry.run_obeys upholds (obeys entry admitted) within
  · exact fun value after within _ => finishes value after within

theorem run_request (obeys : types.Obeys conduct) {request : Request}
    (function : ∀ descriptor arguments, request = .function descriptor arguments →
      descriptor.Obeys conduct) (before : kept store) :
    kept (run (request.call types >>= toScript) store).2 := by
  rw [run_congr toScript (Request.call_admitted request)]
  exact run_entry upholds (toScript_obeys upholds)
    (fun entry admitted => Request.obeys_of_check obeys (upholds.sound (upholds.collects before))
      function admitted) before

end Store
end ScriptHost
