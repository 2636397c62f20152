import Runbook.Clone.Credentials

/-! # Plans for cloning

* **`ClonePlan`** — what cloning a repository will do, before anything is done.
* **`ClonePlan.ofParameters`** — the plan for parameters, with the diagnostics that they raise.
* **`ClonePlan.directoryName`** — the directory that a repository is cloned into. -/

namespace Runbook

/-- What cloning a repository will do. -/
structure ClonePlan where
  /-- The address, with credentials if there are any. -/
  url : String
  /-- The branch, if not the usual one. -/
  branch : Option String
  /-- Whether the repositories inside are cloned as well. -/
  submodules : Bool
  /-- The directory, below the base directory. -/
  directory : String
  deriving DecidableEq, Repr

namespace ClonePlan

/-- The parameters of a plan. -/
def schema : Schema :=
  [⟨"repository", .text, false, true⟩, ⟨"branch", .text, true, false⟩,
    ⟨"include_submodules", .flag, false, false⟩, ⟨"access_token", .text, true, false⟩,
    ⟨"credentials", .anything, true, false⟩]

/-- The notice that a token should be given as credentials. -/
def tokenNotice : Diagnostic :=
  .deprecation ("the `access_token` parameter of git_clone is deprecated and will be removed in a " ++
    "future release. Use `credentials` instead.")

/-- A text without the slashes at its end. -/
def dropSlashes (text : List Char) : List Char := (text.reverse.dropWhile (· == '/')).reverse

/-- The end of a text after its last slash or colon. -/
def lastPart (text : List Char) : List Char :=
  (text.reverse.takeWhile fun c => c != '/' && c != ':').reverse

/-- A text without one `.git` at its end. -/
def dropSuffix (text : List Char) : List Char :=
  match text.reverse with
  | 't' :: 'i' :: 'g' :: '.' :: rest => rest.reverse
  | _ => text

/-- The directory that a repository is cloned into: the last part of its address. -/
def directoryName (repository : String) : Except CloneError String :=
  let name := dropSuffix (lastPart (dropSlashes repository.toList))
  if name.isEmpty then .error (.noDirectory repository) else .ok (String.ofList name)

/-- The credentials that parameters give, and the notices that they raise. -/
def credentialsOf (fields : Fields) :
    Except CloneError (Option Credentials) × List Diagnostic :=
  match Decoding.text? fields "access_token", Decoding.value? fields "credentials" with
  | some _, some _ => (.error .tokenAndCredentials, [])
  | some token, none => (.ok (some (.ofToken token)), [tokenNotice])
  | none, some credentials => (Credentials.ofJson credentials, [])
  | none, none => (.ok none, [])

/-- The plan for a repository and perhaps credentials. -/
def build [DomainNames] (fields : Fields) (credentials? : Option Credentials) : Except CloneError ClonePlan :=
  let repository := (Decoding.text? fields "repository").getD ""
  let url := match credentials? with
    | some credentials => credentials.embed repository
    | none => .ok repository
  match url with
  | .error e => .error e
  | .ok url =>
    match directoryName repository with
    | .error e => .error e
    | .ok directory =>
      .ok ⟨url, Decoding.text? fields "branch",
        Decoding.flag fields "include_submodules" false, directory⟩

/-- The plan for parameters, and the diagnostics that they raise. -/
def ofParameters [DomainNames] (fields : Fields) : Except CloneError ClonePlan × List Diagnostic :=
  match schema.check fields with
  | .error e => (.error (.parameters e), [])
  | .ok () =>
    match credentialsOf fields with
    | (.error e, notices) => (.error e, notices)
    | (.ok credentials?, notices) => (build fields credentials?, notices)

/-- The command that clones a repository. -/
def cloneArguments (plan : ClonePlan) : List String :=
  ["clone", plan.url]
    ++ (match plan.branch with
      | some branch => ["--branch", branch]
      | none => [])
    ++ (if plan.submodules then ["--recurse-submodules"] else [])
    ++ ["--depth", "1", plan.directory]

/-- The command that brings a clone up to date. -/
def pullArguments (plan : ClonePlan) : List String :=
  ["pull", "origin"] ++ plan.branch.toList
    ++ (if plan.submodules then ["--recurse-submodules"] else [])
    ++ ["--depth", "1"]

end ClonePlan

end Runbook
