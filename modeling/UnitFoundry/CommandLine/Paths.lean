import UnitFoundry.CommandLine.Run

/-! # The paths of a run

A run reads files at the paths that its command line names, and below the directories where units
are searched for. -/

namespace UnitFoundry.CommandLine

/-- The path of the configuration. -/
def configPath? : CommandLine → Option String
  | .compile a => a.config
  | .resolve a => a.config
  | _ => none

/-- The directories that a configuration has searched, if there is one. -/
def searchPaths : Except CommandError GeneratorConfig → List String
  | .ok c => c.resolver.hintPaths
  | .error _ => []

/-- The paths that a run reads from once its configuration is there. -/
def paths (s : Surroundings) : CommandLine → List String
  | .compile a => a.source :: a.references ++ searchPaths (configureCompile s a)
  | .resolve a => a.unit :: searchPaths (configure s a.config a.hintPaths)
  | _ => []

end UnitFoundry.CommandLine
