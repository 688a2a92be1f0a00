import CodeWorkspace.Identity
import CodeWorkspace.Options

/-!
# Properties of a project

The single values of a project besides its language, which never changes.  A `Property` is one of
them together with a value for it; setting it gives the project that value.
-/

namespace CodeWorkspace

/-- A property with a value. -/
inductive Property where
  | assemblyName (name : String)
  | filePath (path? : Option String)
  | displayName (name : String)
  | compilationOptions (options : Options)
  | parseOptions (options : Options)
  | outputPath (path? : Option String)
  | outputReferencePath (path? : Option String)
  deriving Inhabited

namespace Property

/-- The name of the property. -/
def name : Property → String
  | .assemblyName _ => "assembly_name"
  | .filePath _ => "file_path"
  | .displayName _ => "display_name"
  | .compilationOptions _ => "compilation_options"
  | .parseOptions _ => "parse_options"
  | .outputPath _ => "output_file_path"
  | .outputReferencePath _ => "output_ref_file_path"

/-- Whether two properties are the same one with the same value. -/
def same : Property → Property → Bool
  | .assemblyName first, .assemblyName second => first == second
  | .filePath first, .filePath second => first == second
  | .displayName first, .displayName second => first == second
  | .compilationOptions first, .compilationOptions second => first.same second
  | .parseOptions first, .parseOptions second => first.same second
  | .outputPath first, .outputPath second => first == second
  | .outputReferencePath first, .outputReferencePath second => first == second
  | _, _ => false

/-- Whether the property is a path that the project publishes its output at. -/
def isOutput : Property → Bool
  | .outputPath _ | .outputReferencePath _ => true
  | _ => false

/-- The path at which the project is to publish its output, if the property gives one. -/
def outputPath? : Property → Option String
  | .outputPath path? | .outputReferencePath path? => path?
  | _ => none

/-- The options that the property gives, if it is one of the two kinds of options. -/
def options? : Property → Option Options
  | .compilationOptions options | .parseOptions options => some options
  | _ => none

end Property

/-- The values of all properties. -/
structure Properties where
  name : String
  assemblyName : String
  filePath? : Option String := none
  outputPath? : Option String := none
  outputReferencePath? : Option String := none
  compilationOptions : Options := Options.unset
  parseOptions : Options := Options.unset
  deriving Inhabited

namespace Properties

/-- Gives a property its value. -/
def set (properties : Properties) : Property → Properties
  | .assemblyName name => { properties with assemblyName := name }
  | .filePath path? => { properties with filePath? := path? }
  | .displayName name => { properties with name := name }
  | .compilationOptions options => { properties with compilationOptions := options }
  | .parseOptions options => { properties with parseOptions := options }
  | .outputPath path? => { properties with outputPath? := path? }
  | .outputReferencePath path? => { properties with outputReferencePath? := path? }

/-- A property with the value that it has now. -/
def now (properties : Properties) : Property → Property
  | .assemblyName _ => .assemblyName properties.assemblyName
  | .filePath _ => .filePath properties.filePath?
  | .displayName _ => .displayName properties.name
  | .compilationOptions _ => .compilationOptions properties.compilationOptions
  | .parseOptions _ => .parseOptions properties.parseOptions
  | .outputPath _ => .outputPath properties.outputPath?
  | .outputReferencePath _ => .outputReferencePath properties.outputReferencePath?

/-- Whether a property has its value already. -/
def holds (properties : Properties) (property : Property) : Bool :=
  (properties.now property).same property

/-- The paths at which the output is published. -/
def outputPaths (properties : Properties) : List String :=
  properties.outputPath?.toList ++ properties.outputReferencePath?.toList

/-- Whether all values are the same. -/
def same (first second : Properties) : Bool :=
  first.name == second.name && first.assemblyName == second.assemblyName &&
    first.filePath? == second.filePath? && first.outputPath? == second.outputPath? &&
    first.outputReferencePath? == second.outputReferencePath? &&
    first.compilationOptions.same second.compilationOptions &&
    first.parseOptions.same second.parseOptions

/-- Setting a property back to the value it had undoes the change. -/
theorem set_set_now (properties : Properties) (property : Property) :
    (properties.set property).set (properties.now property) = properties := by
  cases property <;> rfl

end Properties

/-- What is known of a project when it is created. -/
structure ProjectInfo where
  id : ProjectId
  language : String
  properties : Properties
  deriving Inhabited

end CodeWorkspace
