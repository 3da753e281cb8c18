import ModBuild.CommandLine.Run

/-!
# `ModBuild.CommandLine.Reach`: the files that a command looks at

A command that opens a project looks at the settings of the project first. They say where the copies
are that it looks at next.

* `Command.firstPaths` are the paths that a command looks at whatever it finds.
* `Command.nextPaths` are those that follow from the settings.
-/

set_option autoImplicit false

namespace ModBuild.CommandLine.Command

/-- The paths that a command looks at first. -/
def firstPaths (options : Options) (cwd : Place) : Command → List String
  | .hash file _ => [file]
  | _ => [Config.locate (OpenProject.directory cwd options.projectDir) options.config]

/-- The paths of the copies that a command looks at, given the settings among the files. -/
def nextPaths (around : Surroundings) (options : Options) (files : FileTree) (cwd : Place) :
    Command → List String
  | .hash _ _ => []
  | _ =>
    match OpenProject.at around.connect around.env files cwd options.projectDir options.config with
    | .error _ => []
    | .ok (project, _) =>
      match project.copyPaths with
      | .error _ => []
      | .ok (manifest, metadata) => [manifest, metadata]

end ModBuild.CommandLine.Command
