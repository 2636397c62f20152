import Runbook.Shell.Run
import Runbook.Url.Domain

/-! # Machines in memory

A machine with files, a working directory and a few programs, all held in memory, on which steps can
run without leaving a trace anywhere else. It is the host on which steps are tried out. What is proved of
steps is proved of them on every host.

* **`Machine`** — the state of a machine.
* **`Machine.standard`** — a machine with its programs and without any other files.
* **`Machine.host`** — a machine as a host for steps. -/

namespace Runbook

/-- The state of a machine. -/
structure Machine where
  /-- The files. -/
  tree : FileTree
  /-- The working directory. -/
  place : Place
  /-- The environment variables that every program gets. -/
  bindings : List (String × String)
  /-- The lines that were written to the standard error of the whole run. -/
  notes : List String

namespace Machine

/-- The directories in which programs are looked for on every machine. -/
def usualSearchPath : String := "/usr/local/bin:/usr/bin:/bin"

/-- The directories in which programs are looked for if none are chosen. -/
def fallbackSearchPath : String := "/bin:/usr/bin"

/-- The programs of every machine. -/
def programs : List String := "sh" :: ProgramCall.names

/-- The places that the programs of a machine have. -/
def programNodes : List (Place × FileNode) :=
  [["usr", "bin"], ["bin"]].flatMap fun directory =>
    programs.map fun name => (directory ++ [name], .program name)

/-- The devices of every machine. -/
def deviceNodes : List (Place × FileNode) :=
  let named : List (String × Device) :=
    [("null", .nothing), ("full", .full), ("stdin", .descriptor 0), ("stdout", .descriptor 1),
      ("stderr", .descriptor 2)]
  let numbered := (List.range 10).map fun number =>
    (["dev", "fd", toString number], FileNode.device (.descriptor number))
  (named.map fun (name, device) => (["dev", name], FileNode.device device)) ++ numbered

/-- The directories of every machine. -/
def directories : List Place :=
  [["bin"], ["boot"], ["dev"], ["dev", "fd"], ["etc"], ["home"], ["lib"], ["media"], ["mnt"], ["opt"],
    ["proc"], ["root"], ["run"], ["sbin"], ["srv"], ["sys"], ["tmp"], ["usr"], ["usr", "bin"],
    ["usr", "include"], ["usr", "lib"], ["usr", "local"], ["usr", "local", "bin"],
    ["usr", "local", "lib"], ["usr", "sbin"], ["usr", "share"], ["var"], ["var", "lib"],
    ["var", "log"], ["var", "tmp"]]

/-- A machine with its programs and without any other files. -/
def standard : Machine where
  tree := ⟨deviceNodes ++ programNodes ++ directories.map fun place => (place, .directory)⟩
  place := []
  bindings := [("PATH", usualSearchPath)]
  notes := []

/-- The place of a path, whether or not anything is there. -/
def placeOf (machine : Machine) (path : String) : Place :=
  (FileTree.pieces (Octets.ofText path)).foldl
    (fun place piece =>
      if piece = "" ∨ piece = "." then place
      else if piece = ".." then place.dropLast
      else place ++ [piece])
    (if path.startsWith "/" then [] else machine.place)

/-- Makes a directory and those on the way to it. -/
def makeDirectory (machine : Machine) (path : String) : Machine :=
  { machine with tree := machine.tree.makeDirectory (machine.placeOf path) }

/-- Puts a file somewhere and makes the directories on the way to it. -/
def addBytes (machine : Machine) (path : String) (runnable : Bool) (content : Bytes) : Machine :=
  { machine with tree := machine.tree.addFile (machine.placeOf path) runnable content }

/-- Puts a text into a file. -/
def addFile (machine : Machine) (path : String) (runnable : Bool) (content : String) : Machine :=
  machine.addBytes path runnable (Utf8.encode content)

/-- Sets an environment variable. -/
def setVariable (machine : Machine) (name value : String) : Machine :=
  { machine with
    bindings := machine.bindings.filter (fun entry => entry.1 != name) ++ [(name, value)] }

/-- Makes a directory the working directory. -/
def enter (machine : Machine) (path : String) : Except HostError Unit × Machine :=
  match machine.tree.directory machine.place (Octets.ofText path) with
  | .ok place => (.ok (), { machine with place })
  | .error error => (.error error, machine)

/-- The variables of a program that gets some in addition, in order. -/
def variablesFor (machine : Machine) (more : List (String × String)) : List (String × String) :=
  let all := (more.foldl (fun machine (name, value) => machine.setVariable name value) machine).bindings
  (all.map fun (name, value) => (Octets.ofText name, Octets.ofText value)).mergeSort
    fun a b => a.1 ≤ b.1

/-- A variable as a program sees it: its name ends at the first equals sign. -/
def seen (entry : String × String) : String × String :=
  let chars := (entry.1 ++ "=" ++ entry.2).toList
  (String.ofList (chars.takeWhile (· != '=')), String.ofList ((chars.dropWhile (· != '=')).drop 1))

/-- What programs share when the first one starts, with its open files. Nothing can be read. -/
def systemFor (tree : FileTree) : System × Wiring :=
  let files : Array OpenFile :=
    #[.source (.device .nothing), .sink (.stream 0), .sink (.stream 1)]
  ({ tree
     opened := files
     streams := [[], []]
     nextProcess := 4242
     processes := []
     signals := [] },
    [(0, 0), (1, 1), (2, 2)])

/-- How much a program may do. -/
def effort : Nat := 60000

/-- What runs when a program is called that gets some variables in addition. If a search path is among
these, it counts for the program itself, and then a script need not name its interpreter. -/
def imageOf (machine : Machine) (place : Place) (command : Command) (given : List (String × String)) :
    Except HostError Image :=
  let own := command.bindings.any fun entry => entry.1 = "PATH"
  let searchPath := if own then (given.map seen).lookup "PATH"
    else (machine.bindings.lookup "PATH").map Octets.ofText
  machine.tree.search place (searchPath.getD fallbackSearchPath) (Octets.ofText command.program) own
    (command.arguments.map Octets.ofText)

/-- Runs a program and waits for its end. -/
def run (command : Command) (machine : Machine) : Except HostError Finished × Machine :=
  let found : Except HostError (Place × List (String × String) × Image) := do
    let place ← match command.directory with
      | some directory => machine.tree.directory machine.place (Octets.ofText directory)
      | none => .ok machine.place
    let given := machine.variablesFor command.bindings
    .ok (place, given, ← machine.imageOf place command given)
  match found with
  | .error error => (.error error, machine)
  | .ok (place, given, image) =>
    let (system, wiring) := systemFor machine.tree
    let (ended, after) := (Shell.runImage effort
      { image, bindings := given.map seen, place, wiring, ignored := [], mask := 18,
        limits := .usual, process := none }).run system
    let code := match ended with
      | .code n => some (n % 256)
      | .signal _ => none
    (.ok ⟨after.streamed 0, after.streamed 1, code⟩, { machine with tree := after.tree })

/-- A machine has no tables of characters, so it knows names of hosts in ASCII alone. -/
instance : DomainNames := .ascii

/-- A machine as a host for steps. -/
def host : Host Machine where
  run := run
  isDirectory path machine := machine.tree.isDirectory machine.place (Octets.ofText path)
  enter path machine := machine.enter path
  read path machine := machine.tree.read machine.place (Octets.ofText path)
  note line machine := { machine with notes := machine.notes ++ [line] }

end Machine

end Runbook
