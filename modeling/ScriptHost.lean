import ScriptHost.Main
import ScriptHost.Extension.Counters
import ScriptHost.Extension.Recipe
import ScriptHost.Session.Operation
import ScriptHost.Proofs.Heap.Residence
import ScriptHost.Proofs.Heap.Clearing
import ScriptHost.Proofs.Heap.Lettings
import ScriptHost.Proofs.Heap.Histories
import ScriptHost.Proofs.Heap.Slots
import ScriptHost.Proofs.Custody.Accounts
import ScriptHost.Proofs.Custody.Soundness
import ScriptHost.Proofs.Script.Values
import ScriptHost.Proofs.Script.Positions
import ScriptHost.Proofs.Script.Places
import ScriptHost.Proofs.Effects
import ScriptHost.Proofs.Native.Calls
import ScriptHost.Proofs.Native.Sides
import ScriptHost.Proofs.Script.Exchange
import ScriptHost.Proofs.Script.Runs
import ScriptHost.Proofs.Script.NativeFunctions
import ScriptHost.Proofs.Script.Calling
import ScriptHost.Proofs.Script.Chains
import ScriptHost.Proofs.Script.Evaluation
import ScriptHost.Proofs.Script.Housekeeping
import ScriptHost.Proofs.Script.Composition
import ScriptHost.Proofs.Script.Parts
import ScriptHost.Proofs.Script.Anatomy
import ScriptHost.Proofs.Script.Origins
import ScriptHost.Proofs.Script.Naming
import ScriptHost.Proofs.Script.Signatures
import ScriptHost.Proofs.Script.Messages
import ScriptHost.Proofs.Script.Resolution
import ScriptHost.Proofs.Native.Writes
import ScriptHost.Proofs.Script.Writes
import ScriptHost.Proofs.Session.Soundness
import ScriptHost.Proofs.Script.Losses
import ScriptHost.Proofs.Session.Reachability
import ScriptHost.Proofs.Session.Handles
import ScriptHost.Proofs.Session.Collection
import ScriptHost.Proofs.Session.References
import ScriptHost.Proofs.Session.Settling
import ScriptHost.Proofs.Session.Faults
import ScriptHost.Proofs.Session.Methods
import ScriptHost.Proofs.Native.Typing
import ScriptHost.Proofs.Native.Fields
import ScriptHost.Proofs.Session.Lifecycle
import ScriptHost.Proofs.Session.Typing
import ScriptHost.Proofs.Script.Members
import ScriptHost.Proofs.Session.Fields
import ScriptHost.Proofs.Native.Entries
import ScriptHost.Proofs.Session.Entries
import ScriptHost.Proofs.Native.Admission
import ScriptHost.Proofs.Session.Arities
import ScriptHost.Proofs.Session.Registration
import ScriptHost.Proofs.Script.Notes
import ScriptHost.Proofs.Session.Notes
import ScriptHost.Proofs.Session.Writes
import ScriptHost.Proofs.Session.Registries
import ScriptHost.Proofs.Session.Modules
import ScriptHost.Proofs.Session.Library
import ScriptHost.Proofs.CommandLine
import ScriptHost.Proofs.Script.Words
import ScriptHost.Proofs.Script.Variables
import ScriptHost.Proofs.Script.Bindings
import ScriptHost.Proofs.Session.Globals
import ScriptHost.Proofs.Native.Temporaries
import ScriptHost.Proofs.Session.Temporaries
import ScriptHost.Proofs.Native.Renumbering
import ScriptHost.Proofs.Native.Operators
import ScriptHost.Proofs.Native.Accesses
import ScriptHost.Proofs.Script.Dispatch
import ScriptHost.Proofs.Session.Dispatch
import ScriptHost.Proofs.Session.Constructions
import ScriptHost.Proofs.Decimal.Doubles
import ScriptHost.Proofs.Decimal.Integers
import ScriptHost.Proofs.Decimal.Finite
import ScriptHost.Proofs.Random.Integers
import ScriptHost.Proofs.Random.Doubles
import ScriptHost.Proofs.Json.Texts
import ScriptHost.Proofs.Json.Documents
import ScriptHost.Proofs.Script.Marshalling
import ScriptHost.Proofs.Session.Assignments
import ScriptHost.Proofs.Native.Conduct
import ScriptHost.Proofs.Session.Regimes
import ScriptHost.Proofs.Extension.Math
import ScriptHost.Proofs.Extension.Vectors
import ScriptHost.Proofs.Session.Vectors
import ScriptHost.Proofs.Session.Draws
