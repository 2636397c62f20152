import Runbook.Machine.Signal
import Runbook.Machine.Numeral

/-! # Jobs

A command that a script leaves to itself is a job with a number. The numbers of jobs that nobody can
ask for any more are given again.

* **`Stage`**, **`Job`** — a process that has ended, and a command that was left to itself.
* **`Job.find`** — the job that a text names.
* **`Job.release`** — the number that the next job gets.
* **`Job.shown`** — how a job is listed. -/

namespace Runbook.Shell

/-- A process within a shell that has ended. -/
structure Stage where
  /-- The number of the process. -/
  process : Nat
  /-- How it ended. -/
  ended : Ended
  deriving DecidableEq, Repr

/-- A command that was left to itself. -/
structure Job where
  /-- Its number among all jobs. -/
  number : Nat
  /-- Its processes, each of which reads what the one before it writes. -/
  stages : List Stage
  /-- Whether the shell knows that they ended. -/
  known : Bool
  /-- Whether somebody has waited for it. -/
  awaited : Bool
  /-- Whether it can still be listed. -/
  listed : Bool
  deriving DecidableEq, Repr

namespace Job

/-- The process that stands for a job. -/
def process (job : Job) : Nat := (job.stages.getLast?.map Stage.process).getD 0

/-- How the processes of a job ended. -/
def ends (job : Job) : List Ended := job.stages.map Stage.ended

/-- The exit code of a job. -/
def status (job : Job) : Nat := (job.ends.getLast?.map Ended.status).getD 0

/-- Whether the number of a job may be given to another one. -/
def isFree (job : Job) : Bool := job.awaited || !job.listed

/-- The least number that is free, and the jobs without the one that has it. -/
def release (jobs : List Job) : Nat × List Job :=
  let taken (number : Nat) : Bool := jobs.any fun job => job.number = number && !job.isFree
  let number := ((List.range (jobs.length + 1)).find? fun n => !taken (n + 1)).getD jobs.length + 1
  (number, jobs.filter fun job => job.number != number)

/-- The job that a text names, among jobs of which the latest comes first, or the complaint that there
is none. A percent sign stands before a number; without a number it is the latest job, or with a minus
the one before that. -/
def find (jobs : List Job) (text : String) : Except String Job :=
  let listed := jobs.filter listed
  let missing : Except String Job := .error ("No such job: " ++ text)
  match text.toList with
  | '%' :: name =>
    if name.isEmpty || name = ['+'] || name = ['%'] then
      (listed.head?.map .ok).getD (.error "No current job")
    else if name = ['-'] then (listed[1]?.map .ok).getD (.error "No previous job")
    else if name.all Char.isDigit then
      let number := Escape.number 10 name
      ((listed.find? fun job => job.number = number).map .ok).getD missing
    else missing
  | _ => missing

/-- How a process ended, in words. -/
def ending : Ended → String
  | .code code => if code % 256 = 0 then "Done" else "Done(" ++ toString (code % 256) ++ ")"
  | .signal number => Signal.description number

/-- Text before a field that is at least one blank wide and ends at a column. -/
def field (text : String) (start column : Nat) : String :=
  text ++ String.ofList (List.replicate (max 1 (column - start)) ' ')

/-- How a job is listed, perhaps with the numbers of its processes. -/
def shown (job : Job) (processes : Bool) : String :=
  let mark := "[" ++ toString job.number ++ "] + "
  let words := (job.ends.getLast?.map ending).getD ""
  let number (stage : Stage) : String :=
    if processes then toString stage.process ++ " " else ""
  match job.stages with
  | [] => ""
  | first :: others =>
    let start := mark ++ number first ++ words
    let start := field start start.length 33
    if processes then
      start ++ String.join (others.map fun stage =>
        let text := String.ofList (List.replicate mark.length ' ') ++ number stage
        field (" |\n" ++ text) text.length 33)
    else start ++ String.join (others.map fun _ => " | ")

end Job

end Runbook.Shell
