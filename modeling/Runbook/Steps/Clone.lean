import Runbook.Clone.Plan
import Runbook.Process
import Runbook.Redaction

/-! # The step that clones a repository

* **`CloneStep`** — the program that clones, and where.
* **`CloneStep.behaviour`** — clones a repository, or brings an earlier clone up to date. -/

namespace Runbook

/-- How repositories are cloned. -/
structure CloneStep where
  /-- The program that clones. -/
  program : String
  /-- The directory that holds the clones, if not the working directory. -/
  base : Option String
  deriving DecidableEq, Repr

namespace CloneStep

/-- Clones into the working directory. -/
def usual : CloneStep := ⟨"git", none⟩

/-- The path of an entry of a directory. An entry that is an absolute path is one by itself. -/
def joinPath (directory entry : String) : String :=
  if entry.startsWith "/" || directory.isEmpty then entry
  else if directory.endsWith "/" then directory ++ entry
  else directory ++ "/" ++ entry

/-- The directory of a clone. -/
def checkout (step : CloneStep) (plan : ClonePlan) : String :=
  match step.base with
  | some base => joinPath base plan.directory
  | none => plan.directory

/-- The command that a plan comes to: to clone, or to pull if there is a clone already. -/
def command (step : CloneStep) (plan : ClonePlan) (cloned : Bool) : Command :=
  if cloned then ⟨step.program, plan.pullArguments, some (step.checkout plan), []⟩
  else ⟨step.program, plan.cloneArguments, step.base, []⟩

/-- Carries a plan out. What the program wrote is redacted in a failure. -/
def run {ω : Type} (step : CloneStep) (host : Host ω) (plan : ClonePlan) (world : ω) :
    Except Failure Json × ω :=
  let cloned := host.isDirectory (joinPath (step.checkout plan) ".git") world
  match host.capture (step.command plan cloned) false world with
  | (.error failure, world) => (.error failure, world)
  | (.ok captured, world) =>
    if captured.succeeded then (.ok (.object [("directory", .string plan.directory)]), world)
    else (.error (captured.failure "git_clone" (redact captured.stderr)), world)

/-- The step as an operation. -/
def behaviour [DomainNames] {ω : Type} (step : CloneStep) (host : Host ω) : Behaviour ω :=
  fun fields diagnostics world =>
    match ClonePlan.ofParameters fields with
    | (.error error, notices) => ⟨.error error.toFailure, diagnostics ++ notices, world⟩
    | (.ok plan, notices) =>
      let (outcome, world) := step.run host plan world
      ⟨outcome, diagnostics ++ notices, world⟩

end CloneStep

end Runbook
