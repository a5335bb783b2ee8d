import DesignTokens.Generation.Angular
import DesignTokens.Generation.React
import DesignTokens.Generation.Vue
import DesignTokens.OrderedMap

/-!
# Registries of generators

A registry knows how to build the generator of each framework.

Key definitions: `Registry`, `Registry.standard`, `Registry.create`.
-/

namespace DesignTokens

/-- Builds a generator for options, or says why there is none. -/
abbrev GeneratorFactory := GenerationOptions → Except GenerationError Generator

/-- Builds the generators of a framework. -/
def Framework.factory : Framework → GeneratorFactory
  | .react => Generator.react
  | .vue => Generator.vue
  | .angular => Generator.angular

/-- Ways to build generators, by framework. -/
structure Registry where
  factories : OrderedMap Framework GeneratorFactory

namespace Registry

/-- The registry without entries. -/
def empty : Registry := ⟨.empty⟩

/-- Adds a way to build the generator of a framework.  An earlier one gives
way. -/
def register (r : Registry) (framework : Framework) (factory : GeneratorFactory) : Registry :=
  ⟨r.factories.insert framework factory⟩

/-- The registry of a list of frameworks, each with its own generators. -/
def ofFrameworks (frameworks : List Framework) : Registry :=
  frameworks.foldl (fun r f => r.register f f.factory) empty

/-- The registry of all frameworks. -/
def standard : Registry := ofFrameworks [.react, .vue, .angular]

/-- Whether a framework has an entry. -/
def supports (r : Registry) (framework : Framework) : Bool := r.factories.contains framework

/-- The frameworks with an entry, in the order in which they were first
registered. -/
def frameworks (r : Registry) : List Framework := r.factories.keys

/-- Builds the generator that the options ask for. -/
def create (r : Registry) (options : GenerationOptions) : Except GenerationError Generator :=
  match r.factories.get? options.framework with
  | some factory => factory options
  | none => .error (.unsupportedFramework (Alternatives.name options.framework))

end Registry

end DesignTokens
