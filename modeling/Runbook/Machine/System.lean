import Runbook.FileTree
import Runbook.Text.Octets

/-! # What programs share

The programs of a machine share its files and what is open. A program knows an open file by a number
of its own, and two programs that share an open file also share how far it has been read or written.
Programs may also send signals to one another.

* **`OpenFile`**, **`System`** — a file that is open, and all that programs share.
* **`Wiring`** — the open files of a program by their descriptors.
* **`System.openPath`** — opens a file.
* **`System.write`**, **`System.readAll`** — use one.
* **`System.begin`**, **`System.finish`** — begin and end a process.
* **`System.send`**, **`System.receive`** — send and receive signals. -/

namespace Runbook

/-- What an open file leads to. -/
inductive Channel where
  /-- A device. -/
  | device (device : Device)
  /-- A directory, which cannot be read. -/
  | directory
  /-- The file at a place. -/
  | file (place : Place)
  /-- Bytes that wait to be read. -/
  | supply (bytes : Bytes)
  /-- A stream that leads out of the machine, by its number. -/
  | stream (number : Nat)
  /-- A collection of what is written, the latest first. -/
  | collection (chunks : List Bytes)
  deriving DecidableEq, Repr

/-- A file that is open. -/
structure OpenFile where
  /-- What it leads to. -/
  channel : Channel
  /-- How many bytes stand before the place at which it is read or written. -/
  offset : Nat
  /-- Whether it can be read. -/
  readable : Bool
  /-- Whether it can be written. -/
  writable : Bool
  /-- Whether all that is written goes to its end. -/
  appending : Bool
  deriving Repr

/-- How a file is opened. -/
inductive OpenMode where
  /-- For reading. -/
  | read
  /-- For writing, from its start; what was there is lost. -/
  | write
  /-- For writing, but only if no file is there yet. -/
  | create
  /-- For writing behind what is there. -/
  | append
  /-- For both; what is there stays. -/
  | update
  deriving DecidableEq, Repr

/-- The open files of a program by their descriptors. -/
abbrev Wiring := List (Nat × Nat)

/-- What the programs of a machine share. -/
structure System where
  /-- The files. -/
  tree : FileTree
  /-- The open files by number. -/
  opened : Array OpenFile
  /-- What was written to the streams that lead out of the machine, the latest first. -/
  streams : List (List Bytes)
  /-- The number of the next process. -/
  nextProcess : Nat
  /-- The processes that run, the latest first. -/
  processes : List Nat
  /-- The signals that have been sent and not been received, in order: to which process, and the
  number. -/
  signals : List (Nat × Nat)
  deriving Repr

namespace Wiring

/-- A wiring with another open file behind a descriptor. -/
def rewire (wiring : Wiring) (descriptor file : Nat) : Wiring :=
  (descriptor, file) :: wiring.filter fun entry => entry.1 != descriptor

/-- A wiring without a descriptor. -/
def close (wiring : Wiring) (descriptor : Nat) : Wiring :=
  wiring.filter fun entry => entry.1 != descriptor

end Wiring

namespace OpenFile

/-- A file that can only be read. -/
def source (channel : Channel) : OpenFile := ⟨channel, 0, true, false, false⟩

/-- A file that can only be written. -/
def sink (channel : Channel) : OpenFile := ⟨channel, 0, false, true, false⟩

end OpenFile

namespace System

/-- Adds an open file and gives its number. -/
def add (system : System) (file : OpenFile) : Nat × System :=
  (system.opened.size, { system with opened := system.opened.push file })

/-- Changes an open file. -/
def modifyFile (system : System) (number : Nat) (change : OpenFile → OpenFile) : System :=
  { system with opened := system.opened.modify number change }

/-- The open file behind a descriptor, with its number. -/
def file? (system : System) (wiring : Wiring) (descriptor : Nat) : Option (Nat × OpenFile) := do
  let number ← wiring.lookup descriptor
  let file ← system.opened[number]?
  some (number, file)

/-- Opens the file at the end of a path and gives its number. -/
def openPath (system : System) (wiring : Wiring) (base : Place) (path : String)
    (mode : OpenMode) : Except HostError (Nat × System) := do
  let reading := mode = .read ∨ mode = .update
  let writing := mode ≠ .read
  let opened (channel : Channel) (system : System) : Nat × System :=
    system.add ⟨channel, 0, reading, writing, mode = .append⟩
  let place ← system.tree.walk base path
  match system.tree.node? place with
  | none =>
    if mode = .read then .error .missing
    else .ok (opened (.file place) { system with tree := system.tree.put place (.file false []) })
  | some (.device (.descriptor number)) =>
    match wiring.lookup number with
    | some file => .ok (file, system)
    | none => .error .missing
  | some (.device device) => .ok (opened (.device device) system)
  | some .directory => if writing then .error .isDirectory else .ok (opened .directory system)
  | some (.program _) => .ok (opened (.device .nothing) system)
  | some (.file runnable _) =>
    match mode with
    | .create => .error .alreadyThere
    | .write =>
      .ok (opened (.file place) { system with tree := system.tree.put place (.file runnable []) })
    | _ => .ok (opened (.file place) system)

/-- Bytes with others in the place of those from an offset on; a gap is filled with zeros. -/
def overwrite (content : Bytes) (offset : Nat) (bytes : Bytes) : Bytes :=
  let gap := List.replicate (offset - content.length) 0
  content.take offset ++ gap ++ bytes ++ content.drop (offset + bytes.length)

/-- Writes bytes to the open file of a number. -/
def writeFile (system : System) (number : Nat) (bytes : Bytes) : Except HostError System :=
  match system.opened[number]? with
  | none => .error .badDescriptor
  | some file =>
    if !file.writable then .error .badDescriptor
    else
      match file.channel with
      | .device .full => if bytes.isEmpty then .ok system else .error .noSpace
      | .device _ | .directory | .supply _ => .ok system
      | .stream stream =>
        .ok { system with streams := system.streams.modify stream (bytes :: ·) }
      | .collection chunks =>
        .ok (system.modifyFile number fun file =>
          { file with channel := .collection (bytes :: chunks) })
      | .file place =>
        match system.tree.node? place with
        | some (.file runnable content) =>
          let offset := if file.appending then content.length else file.offset
          let content := overwrite content offset bytes
          .ok ({ system with tree := system.tree.put place (.file runnable content) }.modifyFile
            number fun file => { file with offset := offset + bytes.length })
        | _ => .ok system

/-- Writes bytes to a descriptor. -/
def write (system : System) (wiring : Wiring) (descriptor : Nat) (bytes : Bytes) :
    Except HostError System :=
  match wiring.lookup descriptor with
  | none => .error .badDescriptor
  | some number => system.writeFile number bytes

/-- Writes bytes to a descriptor, if that is possible. -/
def tryWrite (system : System) (wiring : Wiring) (descriptor : Nat) (bytes : Bytes) : System :=
  match system.write wiring descriptor bytes with
  | .ok system => system
  | .error _ => system

/-- The bytes that can be read from an open file. -/
def unread (system : System) (file : OpenFile) : Except HostError Bytes :=
  if !file.readable then .error .badDescriptor
  else
    match file.channel with
    | .directory => .error .isDirectory
    | .supply bytes => .ok (bytes.drop file.offset)
    | .file place =>
      match system.tree.node? place with
      | some (.file _ content) => .ok (content.drop file.offset)
      | _ => .ok []
    | .device _ | .stream _ | .collection _ => .ok []

/-- Reads all that is left behind a descriptor. -/
def readAll (system : System) (wiring : Wiring) (descriptor : Nat) :
    Except HostError (Bytes × System) :=
  match system.file? wiring descriptor with
  | none => .error .badDescriptor
  | some (number, file) => do
    let bytes ← system.unread file
    .ok (bytes, system.modifyFile number fun file =>
      { file with offset := file.offset + bytes.length })

/-- Begins a process and gives its number. -/
def begin (system : System) : Nat × System :=
  let number := system.nextProcess
  (number, { system with
    nextProcess := number + 1, processes := number :: system.processes })

/-- Ends a process. -/
def finish (system : System) (process : Nat) : System :=
  { system with
    processes := system.processes.filter (· != process)
    signals := system.signals.filter fun signal => signal.1 != process }

/-- Sends a signal to a process, if that runs. Number zero is no signal and tells only that. -/
def send (system : System) (process number : Nat) : Option System :=
  if !system.processes.contains process then none
  else if number = 0 then some system
  else some { system with signals := system.signals ++ [(process, number)] }

/-- The signals that a process receives. -/
def receive (system : System) (process : Nat) : List Nat × System :=
  let (mine, others) := system.signals.partition fun signal => signal.1 = process
  (mine.map Prod.snd, { system with signals := others })

/-- What was written to a collection. -/
def collected (system : System) (number : Nat) : Bytes :=
  match system.opened[number]? with
  | some ⟨.collection chunks, _, _, _, _⟩ => chunks.reverse.flatten
  | _ => []

/-- What was written to a stream that leads out of the machine. -/
def streamed (system : System) (number : Nat) : Bytes :=
  ((system.streams[number]?).getD []).reverse.flatten

end System

end Runbook
