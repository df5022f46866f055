import ScriptHost.Session.Objects
import ScriptHost.Session.Scripts

/-!
The operations of a session as data.

Everything that a host can do with a session is one of these operations, so what holds for every
operation holds for every use of a session.
-/

namespace ScriptHost.Session

inductive Operation where
  | start
  | teardown
  | register (registration : Registration)
  | install (extension : Extension)
  | run (text : String)
  | runFile (file : SourceFile)
  | eval (text : String)
  | global (name : String)
  | setGlobal (name : String) (value : HostValue)
  | call (name : String) (arguments : List HostValue)
  | hasFunction (name : String)
  | createObject (typeName : String) (arguments : List HostValue)
  | insertObject (body : Instance)
  | readObject (handle : Handle) (type : HostType)
  | callMethod (receiver : Handle) (name : String) (arguments : List HostValue)
  | getField (receiver : Handle) (name : String)
  | setField (receiver : Handle) (name : String) (value : HostValue)
  | typeName (handle : Handle)
  | isLive (handle : Handle)
  | release (handle : Handle)
  | collect
  | takeOutput
  | statistics
  | phase

inductive Reply where
  | done
  | value (value : HostValue)
  | handle (handle : Handle)
  | content (body : Instance)
  | text (text : String)
  | truth (truth : Bool)
  | amount (amount : Nat)
  | lines (lines : List String)
  | statistics (statistics : Statistics)
  | phase (phase : Phase)

def done (action : Action Unit) : Action Reply := do
  action
  return .done

def Operation.perform : Operation → Action Reply
  | start => done Session.start
  | teardown => done Session.teardown
  | register registration => done (Session.register registration)
  | install extension => done (Session.install extension)
  | run text => done (Session.run text)
  | runFile file => done (Session.runFile file)
  | eval text => .value <$> Session.eval text
  | global name => .value <$> Session.global name
  | setGlobal name value => done (Session.setGlobal name value)
  | call name arguments => .value <$> Session.call name arguments
  | hasFunction name => do return .truth ((← get).hasFunction name)
  | createObject name arguments => .handle <$> Session.createObject name arguments
  | insertObject body => .handle <$> Session.insertObject body.type body.content
  | readObject handle type => do return .content ⟨type, ← Session.readObject handle type⟩
  | callMethod receiver name arguments =>
      .value <$> Session.callMethod receiver name arguments
  | getField receiver name => .value <$> Session.getField receiver name
  | setField receiver name value => done (Session.setField receiver name value)
  | typeName handle => .text <$> Session.typeName handle
  | isLive handle => do return .truth ((← get).isLive handle)
  | release handle => done (Session.release handle)
  | collect => .amount <$> Session.collect
  | takeOutput => .lines <$> Session.takeOutput
  | statistics => do return .statistics (← get).statistics
  | phase => do return .phase (← get).phase

/-- Performs an operation. The session afterwards is given in any case. -/
def perform (session : Session) (operation : Operation) : Except Fault Reply × Session :=
  match operation.perform session with
  | .ok reply session => (.ok reply, session)
  | .error fault session => (.error fault, session)

end ScriptHost.Session
