import ScriptHost.Proofs.Extension.Math
import ScriptHost.Proofs.Random.Doubles
import ScriptHost.Proofs.Session.Methods
import ScriptHost.Proofs.Session.Regimes

/-!
Random draws in a session.

Every native body is lent the generator of the session. Two functions of the extension for
mathematics use it, and these leave it alone unless there is something to draw between the bounds
that they are given. So what such calls are answered depends on the seed and on the bounds of the
calls before them, and on nothing else that is done with a session.
-/

set_option autoImplicit false

namespace ScriptHost

open Script

namespace Sampler

variable {sampler : Sampler}

/-- There is something to draw between the bounds. -/
def Draws : Sampler → Prop
  | float low high =>
      low.isFinite = true ∧ high.isFinite = true ∧ low < high ∧ ¬Random.TooFar low high
  | integer low high => ¬Random.Unusable low high

def leaves (generator : Random.Generator) (sampler : Sampler) : Random.Generator :=
  match sampler.sample generator with
  | .ok (_, after) => after
  | .error _ => generator

theorem sample_of_draws (draws : sampler.Draws) (generator : Random.Generator) :
    ∃ number after, sampler.sample generator = .ok (number, after) := by
  cases sampler with
  | float low high =>
      obtain ⟨isLow, isHigh, ordered, near⟩ := draws
      obtain ⟨sample, count, sampled, -⟩ :=
        Random.float_sampled isLow isHigh ordered near generator
      exact ⟨sample, _, sampled⟩
  | integer low high =>
      obtain ⟨lowest, highest, inOrder⟩ := not_or.mp draws |>.imp_right not_or.mp
      obtain ⟨least, isLeast⟩ := not_forall_not.mp lowest
      obtain ⟨most, isMost⟩ := not_forall_not.mp highest
      obtain ⟨integer, count, sampled, -⟩ :=
        Random.integerBetween_within isLeast isMost inOrder generator
      exact ⟨_, _, sampled⟩

/-- Bounds between which there is nothing to draw are refused, or they are equal and one of them is
the answer. -/
theorem sample_of_idle (idle : ¬sampler.Draws) (generator : Random.Generator) :
    (∃ text, sampler.sample generator = .error (.domain text)) ∨
      ∃ number, sampler.sample generator = .ok (number, generator) := by
  cases sampler with
  | float low high =>
      by_cases infinite : low.isFinite = false ∨ high.isFinite = false
      · exact .inl (Random.float_refused (infinite.imp_right .inl) generator)
      · obtain ⟨isLow, isHigh⟩ := not_or.mp infinite
        rw [Bool.not_eq_false] at isLow isHigh
        rcases Decimal.finite_trichotomy isLow isHigh with
          ⟨ordered, -⟩ | ⟨-, -, same⟩ | ⟨-, inverted, -⟩
        · have far := not_not.mp fun near => idle ⟨isLow, isHigh, ordered, near⟩
          exact .inl (Random.float_refused (.inr (.inr (.inr far))) generator)
        · exact .inr ⟨low, Random.float_equal isLow isHigh same generator⟩
        · exact .inl (Random.float_refused (.inr (.inr (.inl inverted))) generator)
  | integer low high => exact .inl (Random.integerBetween_refused (not_not.mp idle) generator)

theorem leaves_of_idle (idle : ¬sampler.Draws) (generator : Random.Generator) :
    sampler.leaves generator = generator := by
  unfold leaves
  rcases sample_of_idle idle generator with ⟨text, failed⟩ | ⟨number, same⟩
  · rw [failed]
  · rw [same]

end Sampler

theorem Script.Value.number_of_toHost {heap : Heap Occupant} {value : Value} {host : HostValue}
    (given : value.toHost heap .number = .ok host) : ∃ number, host = .number number := by
  unfold toHost at given
  split at given
  · cases given
  · rename_i found _
    cases found with
    | number number =>
        cases given
        exact ⟨number, rfl⟩
    | _ => cases given

namespace Extension.Math

inductive Samples : FunctionDescriptor → (Float → Float → Sampler) → Prop where
  | doubles : Samples functions[4] .float
  | integers : Samples functions[5] .integer

namespace Samples

variable {descriptor : FunctionDescriptor} {make : Float → Float → Sampler}

theorem unique {other : Float → Float → Sampler} (samples : Samples descriptor make)
    (again : Samples descriptor other) : make = other := by
  have different : functions[4].name ≠ functions[5].name := by decide
  generalize same : descriptor = copy at again
  cases samples with
  | doubles =>
      cases again with
      | doubles => rfl
      | integers => exact absurd (congrArg FunctionDescriptor.name same) different
  | integers =>
      cases again with
      | doubles => exact absurd (congrArg FunctionDescriptor.name same) different.symm
      | integers => rfl

theorem parameters (samples : Samples descriptor make) :
    descriptor.parameters = .fixed [.number, .number] := by
  cases samples <;> rfl

theorem body (samples : Samples descriptor make) (low high : Float) :
    descriptor.body [.number low, .number high] =
      .draw (make low high) fun answer =>
        (Routine.ofResult answer).bind fun sample => .done (.number sample) := by
  cases samples <;> rfl

theorem numbers (samples : Samples descriptor make) {heap : Heap Occupant}
    {arguments : List Value} {entry : Call.Entry}
    (admitted : Call.checkScriptFunction heap descriptor arguments = .ok entry) :
    ∃ low high, entry = .function descriptor [.number low, .number high] := by
  unfold Call.checkScriptFunction at admitted
  rw [samples.parameters] at admitted
  dsimp only at admitted
  split at admitted
  · rename_i two
    obtain ⟨first, second, rfl⟩ := List.length_eq_two.mp two
    obtain ⟨given, marshalled, same⟩ := Call.of_bind_ok admitted
    obtain ⟨low, isLow, marshalled⟩ := Call.of_bind_ok marshalled
    obtain ⟨rest, marshalled, both⟩ := Call.of_bind_ok marshalled
    obtain ⟨high, isHigh, marshalled⟩ := Call.of_bind_ok marshalled
    obtain ⟨low, rfl⟩ := Value.number_of_toHost isLow
    obtain ⟨high, rfl⟩ := Value.number_of_toHost isHigh
    cases marshalled
    cases both
    cases same
    exact ⟨low, high, rfl⟩
  · cases admitted

end Samples
end Extension.Math

open Extension.Math

def Registration.Obeys (conduct : Conduct) : Registration → Prop
  | .type descriptor => descriptor.Obeys conduct
  | .function descriptor | .moduleFunction _ descriptor => descriptor.Obeys conduct

namespace Script.Asked

variable {types : TypeRegistry} {asked : Asked} {sampler : Sampler}

/-- The answer to a request in the store that it has met, and the store that it leaves. -/
def outcome (types : TypeRegistry) (asked : Asked) : Except Fault Value × Store :=
  asked.store.run (asked.request.call types >>= Call.toScript)

/-- A request is logged together with the store that it meets, and this is its answer. -/
theorem callNative_outcome (types : TypeRegistry) (request : Call.Request) (machine : Machine) :
    ∃ asked : Asked, asked.request = request ∧
      (machine.callNative types request).2.asked.value = asked :: machine.asked.value ∧
      machine.callNative types request =
        Session.answered (machine.requested request) (asked.outcome types) := by
  refine ⟨⟨request, machine.store.collect⟩, rfl, Machine.asked_callNative, ?_⟩
  rw [Session.callNative_answered]
  unfold outcome Store.run
  rw [Store.collect_collect]

inductive Samples : Asked → Sampler → Prop where
  | function {descriptor : FunctionDescriptor} {make : Float → Float → Sampler}
      {arguments : List Value} {store : Store} {low high : Float}
      (samples : Extension.Math.Samples descriptor make)
      (admitted : Call.checkScriptFunction store.collect.heap descriptor arguments =
        .ok (.function descriptor [.number low, .number high])) :
      Samples ⟨.function descriptor arguments, store⟩ (make low high)

theorem Samples.unique {other : Sampler} (samples : asked.Samples sampler)
    (again : asked.Samples other) : sampler = other := by
  obtain ⟨samples, admitted⟩ := samples
  generalize same : (⟨.function _ _, _⟩ : Asked) = copy at again
  obtain ⟨others, admittedOnce⟩ := again
  cases same
  cases samples.unique others
  cases admitted.symm.trans admittedOnce
  rfl

theorem Samples.outcome (samples : asked.Samples sampler) (types : TypeRegistry) :
    (asked.outcome types).1 = (sampler.sample asked.store.generator).map
        (fun drawn => .datum (.float drawn.1)) ∧
      (asked.outcome types).2.generator = sampler.leaves asked.store.generator := by
  obtain ⟨samples, admitted⟩ := samples
  rename_i descriptor make arguments store low high
  have checked : (Call.Request.function descriptor arguments).check types store.collect.heap =
      .ok (.function descriptor [.number low, .number high]) := admitted
  have performed := Random.perform_draw types (make low high) ⟨store.collect, #[]⟩
  rw [← samples.body] at performed
  unfold Asked.outcome Sampler.leaves
  rw [Store.run_congr Call.toScript (Call.Request.call_admitted _), checked]
  change (Store.run (Call.perform types (descriptor.body _) >>= Call.toScript) store).1 = _ ∧
    (Store.run (Call.perform types (descriptor.body _) >>= Call.toScript) store).2.generator = _
  unfold Store.run
  rw [bind_apply, performed]
  have lent : store.collect.generator = store.generator := rfl
  dsimp only
  rw [lent]
  cases (make low high).sample store.generator with
  | ok drawn => exact ⟨rfl, rfl⟩
  | error fault => exact ⟨rfl, rfl⟩

def Draws (asked : Asked) (sampler : Sampler) : Prop :=
  asked.Samples sampler ∧ sampler.Draws

open Classical in
noncomputable def sampler? (asked : Asked) : Option Sampler :=
  if draws : ∃ sampler, asked.Draws sampler then some draws.choose else none

theorem sampler?_eq_some_iff : asked.sampler? = some sampler ↔ asked.Draws sampler := by
  unfold sampler?
  split
  · rename_i draws
    constructor
    · intro same
      exact Option.some.inj same ▸ draws.choose_spec
    · exact fun drawn => congrArg some (draws.choose_spec.1.unique drawn.1)
  · rename_i none
    exact ⟨nofun, fun draws => absurd ⟨sampler, draws⟩ none⟩

/-- What a request leaves of the generator that it has met. -/
noncomputable def leaves (asked : Asked) : Random.Generator :=
  match asked.sampler? with
  | some sampler => sampler.leaves asked.store.generator
  | none => asked.store.generator

noncomputable def drawn? (types : TypeRegistry) (asked : Asked) : Option (Except Fault Value) :=
  asked.sampler?.map fun _ => (asked.outcome types).1

theorem Samples.leaves (samples : asked.Samples sampler) :
    asked.leaves = sampler.leaves asked.store.generator := by
  unfold Asked.leaves
  by_cases draws : sampler.Draws
  · rw [sampler?_eq_some_iff.mpr ⟨samples, draws⟩]
  · cases found : asked.sampler? with
    | none => exact (Sampler.leaves_of_idle draws _).symm
    | some other =>
        have drawn := sampler?_eq_some_iff.mp found
        exact absurd (samples.unique drawn.1 ▸ drawn.2) draws

theorem leaves_of_not_samples (none : ¬∃ sampler, asked.Samples sampler) :
    asked.leaves = asked.store.generator := by
  unfold leaves
  cases found : asked.sampler? with
  | none => rfl
  | some sampler => exact absurd ⟨sampler, (sampler?_eq_some_iff.mp found).1⟩ none

end Script.Asked

def Conduct.drawless : Conduct := ⟨fun _ => True, fun _ => False⟩

theorem Conduct.upholds_drawless (holds : Random.Generator → Prop) :
    Conduct.drawless.Upholds fun store => holds store.generator where
  sound _ _ := trivial
  rests _ before := before
  inserts _ before := before
  stores _ _ _ before := before
  removes _ before := before
  draws drawn := drawn.elim

theorem Conduct.allows_drawless : Allows Conduct.drawless where
  made _ _ := trivial
  negated _ _ := trivial
  writes _ _ _ _ _ _ _ := trivial

namespace Session

/-- Nothing but the two functions of the extension for mathematics draws. -/
def Lone (descriptor : FunctionDescriptor) : Prop :=
  descriptor.Obeys Conduct.drawless ∨ ∃ make, Extension.Math.Samples descriptor make

theorem generator_outcome {types : TypeRegistry} (obeys : types.Obeys Conduct.drawless)
    {asked : Asked} (lone : ∀ descriptor arguments,
      asked.request = .function descriptor arguments → Lone descriptor) :
    (asked.outcome types).2.generator = asked.leaves := by
  by_cases sampling : ∃ sampler, asked.Samples sampler
  · obtain ⟨sampler, samples⟩ := sampling
    rw [samples.leaves]
    exact (samples.outcome types).2
  · have upholds := Conduct.upholds_drawless (· = asked.store.generator)
    rw [Asked.leaves_of_not_samples sampling]
    unfold Asked.outcome
    rw [Store.run_congr Call.toScript (Call.Request.call_admitted asked.request)]
    apply Store.run_entry upholds (Call.toScript_obeys upholds) _ rfl
    intro entry admitted
    refine Call.Request.obeys_of_check obeys (fun _ => trivial) ?_ admitted
    intro descriptor arguments same
    rcases lone descriptor arguments same with still | ⟨make, samples⟩
    · exact still
    · obtain ⟨request, store⟩ := asked
      cases same
      obtain ⟨low, high, rfl⟩ := samples.numbers admitted
      exact absurd ⟨_, .function samples admitted⟩ sampling

/-- Every request has met the generator that the one before has left, and the first one that of the
seed. The last one comes first. -/
def Chain (seed : UInt64) : List Asked → Random.Generator → Prop
  | [], generator => generator = .ofSeed seed
  | asked :: earlier, generator =>
      Chain seed earlier asked.store.generator ∧ generator = asked.leaves

def Regime.seeded (seed : UInt64) : Regime where
  conduct := Conduct.drawless
  apt := Lone
  law asked store := Chain seed asked store.generator

theorem Regime.lasts_seeded (seed : UInt64) : (Regime.seeded seed).Lasts where
  upholds asked := Conduct.upholds_drawless (Chain seed asked)
  requests {types request _ store} obeys lone chain :=
    ⟨chain, @generator_outcome types obeys ⟨request, store.collect⟩ lone⟩
  clears chain := chain

theorem Regime.approves_random (seed : UInt64) {registration : Registration}
    (member : registration ∈ Extension.math) : (Regime.seeded seed).Approves registration := by
  rcases List.mem_cons.mp member with rfl | member
  · exact vector_obeys Conduct.allows_drawless
  · obtain ⟨function, known, rfl⟩ := List.mem_map.mp member
    change Lone function
    by_cases doubles : function = Extension.Math.functions[4]
    · rw [doubles]
      exact .inr ⟨_, .doubles⟩
    · by_cases integers : function = Extension.Math.functions[5]
      · rw [integers]
        exact .inr ⟨_, .integers⟩
      · exact .inl (function_obeys Conduct.allows_drawless known
          fun either => absurd either (not_or.mpr ⟨doubles, integers⟩))

/-- The generator after some draws, of which the last one comes first. -/
def generatorAfter (seed : UInt64) : List Sampler → Random.Generator
  | [] => .ofSeed seed
  | sampler :: earlier => sampler.leaves (generatorAfter seed earlier)

def replay (seed : UInt64) : List Sampler → List (Except Fault Value)
  | [] => []
  | sampler :: earlier =>
      (sampler.sample (generatorAfter seed earlier)).map (fun drawn => .datum (.float drawn.1)) ::
        replay seed earlier

theorem Chain.replayed {seed : UInt64} {asked : List Asked} {generator : Random.Generator}
    (chain : Chain seed asked generator) (types : TypeRegistry) :
    generator = generatorAfter seed (asked.filterMap Asked.sampler?) ∧
      asked.filterMap (Asked.drawn? types) = replay seed (asked.filterMap Asked.sampler?) := by
  induction asked generalizing generator with
  | nil => exact ⟨chain, rfl⟩
  | cons last earlier ih =>
      obtain ⟨before, rfl⟩ := chain
      obtain ⟨met, answers⟩ := ih before
      unfold Asked.leaves
      cases found : last.sampler? with
      | none =>
          have silent : last.drawn? types = none := congrArg (Option.map _) found
          rw [List.filterMap_cons_none found, List.filterMap_cons_none silent]
          exact ⟨met, answers⟩
      | some sampler =>
          have answer : last.drawn? types = some (last.outcome types).1 :=
            congrArg (Option.map _) found
          have drawn := (Asked.sampler?_eq_some_iff.mp found).1.outcome types
          rw [List.filterMap_cons_some found, List.filterMap_cons_some answer, answers, drawn.1,
            met]
          exact ⟨rfl, rfl⟩

theorem number_of_replay {seed : UInt64} {samplers : List Sampler}
    (draw : ∀ sampler ∈ samplers, sampler.Draws) {answer : Except Fault Value}
    (member : answer ∈ replay seed samplers) : ∃ number, answer = .ok (.datum (.float number)) := by
  induction samplers with
  | nil => cases member
  | cons sampler earlier ih =>
      rcases List.mem_cons.mp member with rfl | before
      · obtain ⟨number, after, sampled⟩ :=
          Sampler.sample_of_draws (draw sampler List.mem_cons_self) (generatorAfter seed earlier)
        rw [sampled]
        exact ⟨number, rfl⟩
      · exact ih (fun other known => draw other (List.mem_cons_of_mem _ known)) before

/-- What scripts have drawn in a session, in this order. -/
noncomputable def samplers (session : Session) : List Sampler :=
  session.machine.asked.value.reverse.filterMap Asked.sampler?

noncomputable def drawn (types : TypeRegistry) (session : Session) : List (Except Fault Value) :=
  session.machine.asked.value.reverse.filterMap (Asked.drawn? types)

theorem draws_of_mem {session : Session} {sampler : Sampler}
    (member : sampler ∈ session.samplers) : sampler.Draws := by
  obtain ⟨asked, _, found⟩ := List.mem_filterMap.mp member
  exact (Asked.sampler?_eq_some_iff.mp found).2

theorem Chain.session {seed : UInt64} {session : Session}
    (chain : Chain seed session.machine.asked.value session.machine.store.generator)
    (types : TypeRegistry) :
    session.machine.store.generator = generatorAfter seed session.samplers.reverse ∧
      session.drawn types = (replay seed session.samplers.reverse).reverse := by
  obtain ⟨left, answers⟩ := chain.replayed types
  have drawn : session.samplers.reverse = session.machine.asked.value.filterMap Asked.sampler? := by
    rw [samplers, List.filterMap_reverse, List.reverse_reverse]
  rw [drawn, Session.drawn, List.filterMap_reverse, answers]
  exact ⟨left, rfl⟩

/-- Registrations other than those of the extension for mathematics draw nothing. -/
def Drawless (configuration : Configuration) (operations : List Operation) : Prop :=
  ∀ registration ∈ (create configuration).registered operations,
    registration ∉ Extension.math → registration.Obeys Conduct.drawless

theorem chain_after {configuration : Configuration} {operations : List Operation} {seed : UInt64}
    (seeded : configuration.seed? = some seed) (drawless : Drawless configuration operations) :
    Chain seed ((create configuration).after operations).machine.asked.value
      ((create configuration).after operations).machine.store.generator := by
  have abides : (Regime.seeded seed).Abides configuration operations := by
    refine ⟨fun operation _ => ?_, fun registration member => ?_⟩
    · cases operation <;> trivial
    · by_cases known : registration ∈ Extension.math
      · exact Regime.approves_random seed known
      · have still := drawless registration member known
        cases registration with
        | type descriptor => exact still
        | function descriptor | moduleFunction space descriptor => exact .inl still
  have began : (Regime.seeded seed).law [] (create configuration).machine.store := by
    change Random.Generator.ofSeed (configuration.seed?.getD 0) = .ofSeed seed
    rw [seeded]
    rfl
  exact Regime.governs_after (Regime.lasts_seeded seed) abides began

/-- In two sessions with the same seed, whatever else is done with each of them, the same draws in
the same order have the same answers, which are numbers, and they leave the same generator. -/
theorem draws_follow_the_seed {seed : UInt64} {first second : Configuration}
    {left right : List Operation} (seeded : first.seed? = some seed)
    (alike : second.seed? = some seed) (drawless : Drawless first left)
    (drawlessToo : Drawless second right)
    (same : ((create first).after left).samplers = ((create second).after right).samplers) :
    let one := (create first).after left
    let other := (create second).after right
    (∀ types others, one.drawn types = other.drawn others) ∧
      (∀ types, ∀ answer ∈ one.drawn types, ∃ number, answer = .ok (.datum (.float number))) ∧
      one.machine.store.generator = other.machine.store.generator := by
  intro one other
  have once := (chain_after seeded drawless).session
  have again := (chain_after alike drawlessToo).session
  rw [← same] at again
  refine ⟨fun types others => (once types).2.trans (again others).2.symm,
    fun types answer member => ?_, (once .empty).1.trans (again .empty).1.symm⟩
  rw [(once types).2, List.mem_reverse] at member
  exact number_of_replay (fun sampler known => draws_of_mem (List.mem_reverse.mp known)) member

theorem asked_install (extension : Extension) (session : Session) :
    (session.perform (.install extension)).2.machine.asked = session.machine.asked := by
  have detached : Detached (Operation.install extension).perform :=
    detached_done (detached_install extension)
  have kept : Keeps (fun after => after.machine.asked = session.machine.asked)
      (Operation.install extension).perform :=
    @Detached.keeps _ _ detached fun machine => machine.asked = session.machine.asked
  exact (perform_of_leads (kept session rfl)).1

def thrown : List Operation :=
  [.start, .install Extension.math, .run "math::random(0.0, 1.0); math::random_int(1, 6);"]

/-- The same, with a collection that comes too early and an extension that is installed twice. -/
def thrownAgain : List Operation :=
  .collect :: (thrown ++ [.install Extension.math])

theorem asked_thrownAgain {session : Session} (unready : session.phase ≠ .ready) :
    (session.after thrownAgain).machine.asked = (session.after thrown).machine.asked := by
  have fallible : Operation.collect.MayFail := trivial
  unfold thrownAgain after
  rw [List.foldl_cons, List.foldl_append, List.foldl_cons, List.foldl_nil, asked_install,
    perform_refused fallible nofun nofun unready]

def seven : Configuration := ⟨.standard, true, some 7⟩

theorem drawless_of_math {operations : List Operation}
    (only : ∀ operation ∈ operations, operation.registrations ⊆ Extension.math) :
    Drawless seven operations :=
  fun _ member other => absurd (registered_subset only member) other

/-- Something is drawn, since the generator is not the one of the seed any more. -/
theorem dice_fall_alike :
    ((create seven).after thrown).samplers ≠ [] ∧
      ((create seven).after thrown).samplers = ((create seven).after thrownAgain).samplers ∧
      ∀ types others, ((create seven).after thrown).drawn types =
        ((create seven).after thrownAgain).drawn others := by
  have drawless : Drawless seven thrown := by
    apply drawless_of_math
    simp [thrown, Operation.registrations]
  have drawlessToo : Drawless seven thrownAgain := by
    apply drawless_of_math
    simp [thrownAgain, thrown, Operation.registrations]
  have same : ((create seven).after thrown).samplers =
      ((create seven).after thrownAgain).samplers := by
    unfold samplers
    rw [asked_thrownAgain (by decide)]
  obtain ⟨answers, -, -⟩ := draws_follow_the_seed rfl rfl drawless drawlessToo same
  refine ⟨fun none => ?_, same, answers⟩
  obtain ⟨generator, -⟩ := (chain_after rfl drawless : Chain 7 _ _).session .empty
  rw [none] at generator
  exact absurd generator (by decide +kernel)

end Session
end ScriptHost
