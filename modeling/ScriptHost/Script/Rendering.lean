import ScriptHost.Script.Resolution

/-!
The text of values as functions give it.

Printing, joining to a text and the expressions inside a text ask the function `to_string` for the
text of a value, and lists and tables ask `to_debug` for the texts of their items. The host may
have functions of these names. Where such a function fails, the value shows what it is; where it
gives no text, the text is the type of what it gives.
-/

namespace ScriptHost.Script.Run

def fallbackText : Value → String
  | .object _ => Value.objectTypeName
  | other => other.plain

/-- The text that the host gives on request, unless the call fails. -/
def requestText (env : Environment) (request : Call.Request) : Run (Option String) :=
  fun machine =>
  match machine.callNative env.types request with
  | (.ok _, machine) =>
      let text := match machine.top with
        | .datum (.text text) => text
        | other => other.typeName
      .ok (some text) machine.drop
  | (.error _, machine) => .ok none machine

def plainText (builtin : Builtin) (value : Value) : String :=
  match builtin, value with
  | .display, .datum datum => datum.display
  | .nested, .datum datum => datum.nested
  | .bare, value => value.bare
  | _, value => fallbackText value

def objectText (env : Environment) (reference : Reference) : Run String := do
  let text := (← get).objectText env.types reference
  record (.description reference text)
  return text

def leafText (env : Environment) (name : String) (value : Value) : Run String := do
  match Native.resolve? env name [value] with
  | none => return fallbackText value
  | some native =>
      match native.implementation, value with
      | .builtin builtin, value => return plainText builtin value
      | .description, .object reference => objectText env reference
      | _, value =>
          match native.request? [value] with
          | some request => return (← requestText env request).getD (fallbackText value)
          | none => return fallbackText value

mutual

def textOf (env : Environment) (name : String) : Value → Run String
  | .list items => do return listText (← arrayTexts env items)
  | .table entries => do return tableText (← entryTexts env entries)
  | value => leafText env name value

def arrayTexts (env : Environment) : Array Value → Run (List String)
  | ⟨items⟩ => itemTexts env items

def itemTexts (env : Environment) : List Value → Run (List String)
  | [] => return []
  | item :: rest => do
      let text ← textOf env "to_debug" item
      return text :: (← itemTexts env rest)

def entryTexts (env : Environment) : List (String × Value) → Run (List (String × String))
  | [] => return []
  | (name, value) :: rest => do
      let text ← textOf env "to_debug" value
      return (name, text) :: (← entryTexts env rest)

end

def display (env : Environment) : Value → Run String
  | .datum (.text text) => return text
  | value => textOf env "to_string" value

end ScriptHost.Script.Run
