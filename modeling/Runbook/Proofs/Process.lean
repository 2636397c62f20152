import Runbook.Process

/-! # Programs that are run

* **`Finished.captured`**, **`Host.display`** — what is captured of a program that has finished, and
  what is shown of it.
* **`Host.capture_of_launch_ok`**, **`Host.capture_of_launch_error`** — how a program is captured that
  starts, and one that does not.
* **`Host.recorded`** — a host that keeps a record of the commands that reach it. The record makes no
  difference to it (`Host.launch_recorded`). -/

namespace Runbook

/-- **What is captured of a program that has finished**: the lines that it has written, if they are
text, and its exit code. -/
def Finished.captured (finished : Finished) : Except Utf8Error Captured :=
  let out := readLines finished.stdout.lines
  let err := readLines finished.stderr.lines
  match out.2.or err.2 with
  | some error => .error error
  | none => .ok ⟨String.intercalate "\n" out.1, String.intercalate "\n" err.1, finished.code⟩

/-- The commands that reach a host when a command is launched: one that cannot be handed over does
not. -/
def Command.handedOver (command : Command) : List Command :=
  if command.holdsNul then [] else [command]

namespace Host

variable {ω : Type} {host : Host ω} {command : Command} {world after : ω} {finished : Finished}

/-- Shows the lines that a program has written, if they are to be shown. -/
def display (host : Host ω) (shown : Bool) (finished : Finished) (world : ω) : ω :=
  if shown then
    host.noteAll ((readLines finished.stdout.lines).1 ++ (readLines finished.stderr.lines).1) world
  else world

/-! ## Captured programs -/

/-- **A program that has started is captured** unless it has written what is no text. -/
theorem capture_of_launch_ok (h : host.launch command world = (.ok finished, after))
    (shown : Bool) :
    host.capture command shown world =
      (finished.captured.mapError fun error =>
        ⟨"failed to read output of '" ++ command.program ++ "'", [error.message]⟩,
        host.display shown finished after) := by
  rw [capture, h, Finished.captured]
  dsimp only
  cases (readLines finished.stdout.lines).2.or (readLines finished.stderr.lines).2 <;> rfl

/-- A program that does not start is not captured. -/
theorem capture_of_launch_error {error : HostError}
    (h : host.launch command world = (.error error, after)) (shown : Bool) :
    host.capture command shown world =
      (.error ⟨"failed to start '" ++ command.program ++ "'", [error.message]⟩, after) := by
  rw [capture, h]

/-! ## Records -/

/-- **A host that keeps a record of the commands that it is asked to run.** -/
def recorded (host : Host ω) : Host (ω × List Command) where
  run command world :=
    let (result, after) := host.run command world.1
    (result, after, world.2 ++ [command])
  isDirectory path world := host.isDirectory path world.1
  enter path world :=
    let (result, after) := host.enter path world.1
    (result, after, world.2)
  read path world := host.read path world.1
  note line world := (host.note line world.1, world.2)

/-- **The record makes no difference to a launch**; it grows by the command if that is handed over. -/
theorem launch_recorded (host : Host ω) (command : Command) (world : ω) (commands : List Command) :
    host.recorded.launch command (world, commands) =
      ((host.launch command world).1, (host.launch command world).2,
        commands ++ command.handedOver) := by
  rw [launch, launch, Command.handedOver]
  split
  · rw [List.append_nil]
  · rfl

/-- A command that starts a program has been handed over. -/
theorem handedOver_of_launch_ok (h : host.launch command world = (.ok finished, after)) :
    command.handedOver = [command] := by
  rw [launch] at h
  rw [Command.handedOver]
  split at h
  · cases h
  · rename_i hnul
    rw [if_neg hnul]

theorem noteAll_recorded (host : Host ω) (lines : List String) (world : ω)
    (commands : List Command) :
    host.recorded.noteAll lines (world, commands) = (host.noteAll lines world, commands) := by
  induction lines generalizing world with
  | nil => rfl
  | cons line lines ih => exact ih (host.note line world)

theorem display_recorded (host : Host ω) (shown : Bool) (finished : Finished) (world : ω)
    (commands : List Command) :
    host.recorded.display shown finished (world, commands) =
      (host.display shown finished world, commands) := by
  cases shown with
  | false => rfl
  | true => exact host.noteAll_recorded _ world commands

/-- **The record makes no difference to a captured program**; it grows by the command if that is handed
over. -/
theorem capture_recorded (host : Host ω) (command : Command) (shown : Bool) (world : ω)
    (commands : List Command) :
    host.recorded.capture command shown (world, commands) =
      ((host.capture command shown world).1, (host.capture command shown world).2,
        commands ++ command.handedOver) := by
  have hrecorded := host.launch_recorded command world commands
  cases hlaunch : host.launch command world with
  | mk result after =>
    rw [hlaunch] at hrecorded
    cases result with
    | error error =>
      rw [capture_of_launch_error hrecorded, capture_of_launch_error hlaunch]
    | ok finished =>
      rw [capture_of_launch_ok hrecorded, capture_of_launch_ok hlaunch, display_recorded]

end Host

end Runbook
