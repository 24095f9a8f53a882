import ScreenNav.Navigator.Generation
import ScreenNav.Navigator.Method
import ScreenNav.ReadBack
import ScreenNav.Screen

/-!
# The navigator

The generated class: for every screen a *launcher*, which starts the screen with an intent that
carries its extras, and a *binder*, which assigns the fields of a started screen from its intent.

**Launchers** take the context and one parameter for each extra, in order, and put every extra into
the intent under its own name.

**Binders** assign the bound fields, in order. A bound field that other classes cannot assign is an
error. So is one whose type cannot be read back, if generation is strict; otherwise it is left out
with a warning.

**References.** Both kinds of method share one import scope, and types are referred to in the order
in which a method is put together, so the screens that come first have the simple names.
-/

namespace ScreenNav

/-- The generated class. -/
structure Navigator where
  package : String
  name : String
  imports : List String
  methods : List Method
deriving DecidableEq, Repr

namespace Navigator

/-- The name of the generated class. -/
def className : String := "Navigator"

/-- The platform class whose methods start a screen. -/
def contextType : String := "android.content.Context"

/-- The platform class that carries extras to a screen. -/
def intentType : String := "android.content.Intent"

/-! ## Launchers -/

/-- The parameter for an extra. -/
def extraParameter (e : Extra) : Generation Parameter := do
  let type ← Generation.refer e.type.name
  return ⟨type, e.name⟩

/-- The method that starts a screen. -/
def launcher (screen : Screen) : Generation Method := do
  let intent ← Generation.refer intentType
  let context ← Generation.refer contextType
  let extras ← Generation.forEach extraParameter screen.extras
  let activity ← Generation.refer screen.className
  return {
    name := screen.launcherName
    parameters := ⟨context, "context"⟩ :: extras
    statements :=
      .newIntent intent activity :: screen.extras.map (fun e => .putExtra e.name)
        ++ [.startActivity] }

/-! ## Binders -/

/-- The cast that a plan asks for. -/
def castFor (plan : AccessorPlan) (type : Descriptor) : Generation (Option String) :=
  if plan.needsCast then do
    let cast ← Generation.refer type.name
    return some cast
  else return none

/-- A bound field has to be one that other classes can assign. -/
def checkWritable (className : String) (e : Extra) : Except GenerationError Unit :=
  if e.bound ∧ ¬ e.writable then .error (.notWritable className e.name) else .ok ()

/-- The assignment to a bound field, unless it is left out. -/
def bindExtra (strict : Bool) (screen : Screen) (e : Extra) : Generation (Option Statement) := do
  Generation.ofExcept (checkWritable screen.simpleName e)
  match e.type.plan? with
  | none =>
    if strict then Generation.fail (.notReadable screen.simpleName e.name e.type.name)
    else do
      Generation.report (.notBinding screen.className e.name e.type.name)
      return none
  | some plan => do
    let cast ← castFor plan e.type
    return some (.assign e.name cast plan.method plan.fallback)

/-- The method that assigns the fields of a screen. -/
def binder (strict : Bool) (screen : Screen) : Generation Method := do
  let intent ← Generation.refer intentType
  let assignments ← Generation.forEach (bindExtra strict screen)
    (screen.extras.filter (·.bound))
  let activity ← Generation.refer screen.className
  return {
    name := "bind"
    parameters := [⟨activity, "activity"⟩]
    statements := .getIntent intent :: assignments.filterMap id }

/-! ## The class -/

/-- The launcher and the binder of a screen. -/
def screenMethods (strict : Bool) (screen : Screen) : Generation (List Method) := do
  let launcher ← launcher screen
  let binder ← binder strict screen
  Generation.report (.generated screen.simpleName screen.className)
  return [launcher, binder]

/-- The methods of all screens, in order. -/
def allMethods (strict : Bool) (screens : List Screen) : Generation (List Method) := do
  let pairs ← Generation.forEach (screenMethods strict) screens
  return pairs.flatten

/-- What generation leaves behind: the events it reported, and a navigator or an error. -/
structure Build where
  log : List LogRecord
  result : Except GenerationError Navigator

/-- Generates the navigator of several screens. -/
def build (package : String) (strict : Bool) (screens : List Screen) : Build :=
  let step := allMethods strict screens (Scope.start package [className])
  ⟨step.log, step.result.map fun methods => ⟨package, className, step.scope.imports, methods⟩⟩

end Navigator

end ScreenNav
