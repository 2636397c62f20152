import Runbook.Decoding
import Runbook.Process

/-! # The step that changes the working directory

* **`WorkingDirectoryStep.behaviour`** — makes a directory the working directory. -/

namespace Runbook.WorkingDirectoryStep

/-- The parameters of the step. -/
def schema : Schema := [⟨"directory", .path, false, true⟩]

/-- Makes a directory the working directory of a host. -/
def enter {ω : Type} (host : Host ω) (directory : String) (world : ω) : Except HostError Unit × ω :=
  if holdsNul directory then
    (.error (.other "file name contained an unexpected NUL byte"), world)
  else host.enter directory world

/-- The step as an operation. -/
def behaviour {ω : Type} (host : Host ω) : Behaviour ω :=
  fun fields diagnostics world =>
    match schema.check fields with
    | .error error =>
      ⟨.error ⟨"invalid parameters for set_working_directory", [error.message]⟩, diagnostics, world⟩
    | .ok () =>
      let directory := (Decoding.text? fields "directory").getD ""
      match enter host directory world with
      | (.ok (), world) => ⟨.ok (.object [("directory", .string directory)]), diagnostics, world⟩
      | (.error error, world) =>
        ⟨.error ⟨"could not change the working directory to '" ++ directory ++ "'",
          [error.message]⟩, diagnostics, world⟩

end Runbook.WorkingDirectoryStep
