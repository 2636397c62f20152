import Runbook.Registry
import Runbook.Steps.Clone
import Runbook.Steps.Requirements
import Runbook.Steps.WorkingDirectory

/-! # The steps that are always there

* **`Registry.builtin`** — the registry of the built-in steps and of their old names. -/

namespace Runbook.Registry

/-- The name of the step that runs a script. -/
def runShellScript : String := "rigger.steps.run_shell_script"

/-- The name of the step that clones a repository. -/
def gitClone : String := "rigger.steps.git_clone"

/-- The name of the step that installs requirements. -/
def installRequirements : String := "rigger.steps.pip_install_requirements"

/-- The name of the step that changes the working directory. -/
def setWorkingDirectory : String := "rigger.steps.set_working_directory"

/-- The old names of the built-in steps, with what they stand for. -/
def oldNames : List (String × String) :=
  [("rigger.projects.steps.git_clone_project", gitClone),
    ("rigger.steps.git_clone_project", gitClone),
    ("rigger.projects.steps.set_working_directory", setWorkingDirectory),
    ("rigger.projects.steps.run_shell_script", runShellScript),
    ("rigger.projects.steps.pip_install_requirements", installRequirements)]

/-- The registry of the built-in steps, which see an environment and run on a host. -/
def builtin [DomainNames] {ω : Type} (host : Host ω) (environment : Environment) : Registry ω :=
  let registry := (((Registry.empty.register runShellScript
      (.suspending (ScriptStep.behaviour host environment))).register gitClone
      (.suspending (CloneStep.usual.behaviour host))).register installRequirements
      (.suspending (RequirementsStep.behaviour host environment))).register setWorkingDirectory
      (.blocking (WorkingDirectoryStep.behaviour host))
  oldNames.foldl (fun registry (oldName, target) => registry.registerAlias oldName target) registry

end Runbook.Registry
