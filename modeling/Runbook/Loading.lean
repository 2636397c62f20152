import Runbook.Operation
import Runbook.Yaml.Tree

/-! # Documents and stores from files

* **`PipelineDocument.load`** — the pipeline document in a file.
* **`TableStore.load`** — the reference store in a file. -/

namespace Runbook

/-- The pipeline document in a file, given its contents or why they cannot be read. -/
def PipelineDocument.load (path : String) (contents : Except String String) :
    Except Failure PipelineDocument :=
  match contents with
  | .error cause => .error ⟨"Failed to read pipeline file: " ++ path, [cause]⟩
  | .ok text =>
    match PipelineDocument.ofYaml text with
    | .ok document => .ok document
    | .error fault =>
      .error ⟨"Unsupported pipeline document in " ++ path
        ++ ". Expected a sequence of steps or a mapping of named step sections", [fault.message]⟩

/-- The reference store in a file, given its contents or why they cannot be read. -/
def TableStore.load (path : String) (contents : Except String String) :
    Except StoreError TableStore :=
  match contents with
  | .error cause => .error (.load path cause)
  | .ok text => (TableStore.ofYaml text).mapError fun fault => .load path fault.message

end Runbook
