import Runbook.Operation

/-! # Reports of failures

* **`Failure.report`** — a failure and its causes as the command line shows them. -/

namespace Runbook

/-- Lines of a text, each but the first after an indentation. -/
def indentLines (indentation : String) (text : String) : String :=
  String.intercalate ("\n" ++ indentation)
    ((text.toList.splitOnP (· == '\n')).map String.ofList)

/-- The cause at a position. -/
def causeLine (index : Nat) (cause : String) : String :=
  let number := toString index
  String.ofList (List.replicate (5 - number.length) ' ') ++ number ++ ": "
    ++ indentLines "       " cause

/-- The causes from a position on. -/
def causeLines (index : Nat) : List String → List String
  | [] => []
  | cause :: rest => causeLine index cause :: causeLines (index + 1) rest

/-- A failure and its causes in lines. Several causes are numbered. -/
def Failure.report (failure : Failure) : List String :=
  ("Error: " ++ failure.message) ::
    match failure.causes with
    | [] => []
    | [cause] => ["", "Caused by:", "    " ++ indentLines "    " cause]
    | causes => "" :: "Caused by:" :: causeLines 0 causes

end Runbook
