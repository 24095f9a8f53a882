import ScreenNav.Log
import ScreenNav.Navigator.Scope

/-!
# Steps of generation

Generating code is a sequence of steps over one import scope. Each step may extend the scope and
report events, and it ends with a result or an error. After an error no further step is taken, but
what the scope and the log hold by then stays.
-/

namespace ScreenNav

/-- Why no code is generated. -/
inductive GenerationError where
  /-- A bound field cannot be assigned. -/
  | notWritable (className fieldName : String)
  /-- A bound field has a type that cannot be read back. -/
  | notReadable (className fieldName typeName : String)
  /-- The name of a type has no meaning. -/
  | badTypeName (error : TypeNameError)
deriving DecidableEq, Repr

/-- The wording of an error. -/
def GenerationError.message : GenerationError → String
  | .notWritable className fieldName =>
    className ++ "." ++ fieldName ++ " must be public and non-final to be bound"
  | .notReadable className fieldName typeName =>
    className ++ "." ++ fieldName ++ " has type " ++ typeName
      ++ ", which cannot be read from an Intent"
  | .badTypeName error => error.message

/-- What a step of generation leaves behind. -/
structure Step (α : Type) where
  scope : Scope
  log : List LogRecord
  result : Except GenerationError α

/-- A computation that extends an import scope. -/
def Generation (α : Type) := Scope → Step α

namespace Generation

/-- The step that follows a result. -/
def andThen {α β : Type} (x : Generation α) (next : α → Generation β) : Generation β := fun scope =>
  let first := x scope
  match first.result with
  | .error e => ⟨first.scope, first.log, .error e⟩
  | .ok a =>
    let second := next a first.scope
    ⟨second.scope, first.log ++ second.log, second.result⟩

instance : Monad Generation where
  pure a := fun scope => ⟨scope, [], .ok a⟩
  bind := andThen

/-- A result or an error that does not depend on the scope. -/
def ofExcept {α : Type} (result : Except GenerationError α) : Generation α := fun scope =>
  ⟨scope, [], result⟩

/-- Gives up. -/
def fail {α : Type} (error : GenerationError) : Generation α := ofExcept (.error error)

/-- Reports an event. -/
def report (record : LogRecord) : Generation Unit := fun scope => ⟨scope, [record], .ok ()⟩

/-- The text that refers to a type, after its claims are made. -/
def refer (typeText : String) : Generation String := fun scope =>
  let type := TypeName.ofText typeText
  let scope := scope.claimType type
  ⟨scope, [], (scope.displayType type).mapError .badTypeName⟩

/-- Takes a step for each of several things, in order. -/
def forEach {α β : Type} (step : α → Generation β) : List α → Generation (List β)
  | [] => pure []
  | a :: rest => do
    let b ← step a
    let bs ← forEach step rest
    return b :: bs

end Generation

end ScreenNav
