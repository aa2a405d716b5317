import Gamebook.Command

/-! # What a command may read

Which paths a command may look at, as far as the files that are on a disk already can tell. Files name
other files: a manifest names the story, and a story names the files that its branches lead to. So the
paths are all known once everything that they lead to is on the disk.
-/

namespace Gamebook

/-- The paths of the other files to which branches of a script lead. -/
def Script.leadsTo (s : Script) : List Text :=
  s.modules.flatMap fun m => m.scenes.flatMap fun scene => scene.branches.filterMap fun branch =>
    match branch.target with
    | .otherFile path _ _ => some (Loader.targetPath ⟨s.path, m.name, scene.name⟩ path)
    | .sameFile _ _ => none

/-- The paths of the files to which the story in a file leads. -/
def Disk.leadsTo (d : Disk) (path : Text) : List Text :=
  let file := Path.absolute d.directory path
  match d.read file with
  | .ok contents => (Loaded.ofText file contents).script.leadsTo
  | .error _ => []

/-- The path of the file to which a log goes. -/
def Log.Setup.path? (s : Log.Setup) : Option Text :=
  match Log.Destination.parse s.output with
  | .ok (.file path) => some path
  | _ => none

namespace Command

/-- The paths that a command is told of by its flags, its settings and its manifest. -/
def named (i : Invocation) (d : Disk) : List Text :=
  match Flags.parse i.arguments with
  | .error _ => []
  | .ok (f, rest) =>
    let manifest := (Manifest.load d f.manifest).toOption
    let told : List Text := match Settings.load d i.environment [] with
      | .error _ => []
      | .ok s =>
        let planned : List Text := match (Plan.ofManifest s (rest.headD []) manifest).withFlags f with
          | .error _ => []
          | .ok plan => [plan.file, plan.transcript]
        s.log.path?.toList ++ planned
    [Settings.usualFile, f.manifest] ++ told

/-- The paths that a command may look at, once it has looked at some. -/
def reach (i : Invocation) (d : Disk) (seen : List Text) : List Text :=
  (named i d ++ seen.flatMap d.leadsTo).filter (· ≠ [])

end Command

end Gamebook
