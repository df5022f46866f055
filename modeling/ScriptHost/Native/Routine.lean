import ScriptHost.Native.Instance
import ScriptHost.Random.Uniform

/-!
Routines: the bodies of native callables.

A routine is a tree of requests to the session that calls it. It can allocate instances, read
them, ask for types, count what is live and draw random numbers, and it goes on with each answer,
a refusal included. It cannot change an instance that exists already, nor run a script.
-/

namespace ScriptHost

inductive Sampler where
  | float (low high : Float)
  | integer (low high : Float)
deriving Repr

def Sampler.sample (generator : Random.Generator) :
    Sampler → Except Fault (Float × Random.Generator)
  | float low high => Random.float low high generator
  | integer low high => Random.integerBetween low high generator

inductive Routine (α : Type) where
  | done (result : α)
  | fail (fault : Fault)
  | allocate (type : HostType) (content : type.Content)
      (next : Except Fault HostValue → Routine α)
  | read (type : HostType) (value : HostValue) (next : Except Fault type.Content → Routine α)
  | recognise (type : HostType) (value : HostValue) (next : Bool → Routine α)
  | nameType (value : HostValue) (next : Except Fault String → Routine α)
  | countLive (next : Nat → Routine α)
  | draw (sampler : Sampler) (next : Except Fault Float → Routine α)

namespace Routine

variable {α β : Type}

def bind (first : Routine α) (rest : α → Routine β) : Routine β :=
  match first with
  | done result => rest result
  | fail fault => fail fault
  | allocate type content next => allocate type content fun answer => (next answer).bind rest
  | read type value next => read type value fun answer => (next answer).bind rest
  | recognise type value next => recognise type value fun answer => (next answer).bind rest
  | nameType value next => nameType value fun answer => (next answer).bind rest
  | countLive next => countLive fun answer => (next answer).bind rest
  | draw sampler next => draw sampler fun answer => (next answer).bind rest

instance : Monad Routine where
  pure := done
  bind := bind

def ofResult : Except Fault α → Routine α
  | .ok result => done result
  | .error fault => fail fault

instance : MonadLift (Except Fault) Routine where
  monadLift := ofResult

def new (type : HostType) (content : type.Content) : Routine HostValue :=
  allocate type content ofResult

def contentOf (type : HostType) (value : HostValue) : Routine type.Content :=
  read type value ofResult

def isInstance (type : HostType) (value : HostValue) : Routine Bool :=
  recognise type value done

def typeNameOf (value : HostValue) : Routine String :=
  nameType value ofResult

def liveObjects : Routine Nat :=
  countLive done

def random (sampler : Sampler) : Routine Float :=
  draw sampler ofResult

end Routine
end ScriptHost
