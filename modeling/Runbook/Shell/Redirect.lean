import Runbook.Shell.Expansion

/-! # Redirections

* **`expandRedirections`** — redirections whose words are expanded, apart from here-documents.
* **`redirect`** — makes redirections.
* **`redirected`** — a step with redirections that are undone behind it. -/

namespace Runbook.Shell

/-- What becomes of a descriptor when the words that name files are expanded. -/
inductive Opening where
  /-- It leads to a file. -/
  | file (path : String) (mode : OpenMode)
  /-- It is what another descriptor is. -/
  | copy (descriptor : Nat)
  /-- It is closed. -/
  | close
  /-- It reads what a word stands for. -/
  | document (word : Word)

/-- The redirection of a descriptor to one that a text names. -/
def openingOfText (text : String) : Act Opening :=
  match text.toList with
  | ['-'] => pure .close
  | [c] =>
    if c.isDigit then pure (.copy (c.toNat - 48)) else bad
  | _ => bad
where
  /-- Complains about a text that names no descriptor. -/
  bad : Act Opening := do
    modify fun session => { session with line := session.reached }
    Act.fail SyntaxError.badDescriptor.message

/-- What becomes of a descriptor when the words that name files are expanded. -/
def expandTarget (substitute : ShellCommand → Act Bytes) : RedirectionTarget → Act Opening
  | .write path => do
    let path ← expandText substitute .single path
    pure (.file path (if (← get).has "noclobber" then .create else .write))
  | .clobber path => do pure (.file (← expandText substitute .single path) .write)
  | .append path => do pure (.file (← expandText substitute .single path) .append)
  | .read path => do pure (.file (← expandText substitute .single path) .read)
  | .update path => do pure (.file (← expandText substitute .single path) .update)
  | .copy descriptor => pure (.copy descriptor)
  | .copyNamed word => do openingOfText (← expandText substitute .single word)
  | .close => pure .close
  | .document number => do pure (.document ((← get).documents.getD number []))

/-- Redirections whose words are expanded, apart from here-documents. -/
def expandRedirections (substitute : ShellCommand → Act Bytes) (redirections : List Redirection) :
    Act (List (Nat × Opening)) :=
  redirections.mapM fun redirection => do
    pure (redirection.descriptor, ← expandTarget substitute redirection.target)

/-- The complaint that a file cannot be opened. -/
def openComplaint (path : String) (mode : OpenMode) (error : HostError) : String :=
  let missing := error = .missing ∨ error = .notDirectory
  if mode = .read then
    "cannot open " ++ path ++ ": " ++ (if missing then "No such file" else error.reason)
  else "cannot create " ++ path ++ ": "
    ++ (if missing then "Directory nonexistent" else error.reason)

/-- Leads a descriptor to an open file. -/
def rewire (descriptor number : Nat) : Act Unit :=
  modify fun session => { session with wiring := session.wiring.rewire descriptor number }

/-- Makes a redirection. -/
def redirectOne (substitute : ShellCommand → Act Bytes) (descriptor : Nat) (opening : Opening) :
    Act Unit := do
  let session ← get
  match opening with
  | .file path mode =>
    match session.system.openPath session.wiring session.place path mode with
    | .ok (number, system) => do
      set { session with system }
      rewire descriptor number
    | .error error => Act.fail (openComplaint path mode error)
  | .copy other =>
    if other = descriptor then pure ()
    else
      match session.wiring.lookup other with
      | some number => rewire descriptor number
      | none => Act.fail (toString other ++ ": " ++ HostError.badDescriptor.reason)
  | .close => set { session with wiring := session.wiring.close descriptor }
  | .document word => do
    let text ← expandText substitute .verbatim word
    let session ← get
    let (number, system) := session.system.add (.source (.supply (Octets.toBytes text)))
    set { session with system }
    rewire descriptor number

/-- Makes redirections, one after another. -/
def redirect (substitute : ShellCommand → Act Bytes) (openings : List (Nat × Opening)) : Act Unit :=
  openings.forM fun (descriptor, opening) => redirectOne substitute descriptor opening

/-- Makes redirections. Says whether that was possible. -/
def tryRedirect (substitute : ShellCommand → Act Bytes) (openings : List (Nat × Opening)) : Act Bool :=
  tryCatch (do redirect substitute openings; pure true) fun
    | .error => pure false
    | ending => throw ending

/-- A wiring in which some descriptors are what they are in another one. -/
def undo (former now : Wiring) (openings : List (Nat × Opening)) : Wiring :=
  openings.foldl (fun wiring (descriptor, _) =>
    match former.lookup descriptor with
    | some number => wiring.rewire descriptor number
    | none => wiring.close descriptor) now

/-- A step behind which redirections that it may make are undone. -/
def undoing {α : Type} (openings : List (Nat × Opening)) (body : Act α) : Act α := do
  let former := (← get).wiring
  Act.ensuring body do
    modify fun session => { session with wiring := undo former session.wiring openings }

end Runbook.Shell
