import Runbook.Decoding
import Runbook.Operation
import Runbook.Url.Basic

/-! # Credentials of a repository

* **`Credentials`** — a token, or a user name and a password.
* **`Credentials.ofJson`** — the credentials that a parameter gives.
* **`Credentials.address`**, **`Credentials.embed`** — a repository's address with credentials in it, in
  parts and as a text. A token is written in the way that its host expects.
* **`CloneError`** — why a repository cannot be cloned. -/

namespace Runbook

/-- Why a repository cannot be cloned. -/
inductive CloneError where
  /-- The parameters cannot be decoded. -/
  | parameters (cause : DecodeError)
  /-- Both a token and credentials are given. -/
  | tokenAndCredentials
  /-- A part of the credentials is no string. -/
  | partNotText (name : String)
  /-- The credentials are neither a string nor a mapping. -/
  | notCredentials
  /-- The repository is no address. -/
  | invalidUrl (repository : String) (cause : UrlError)
  /-- The repository's address is none of the web. -/
  | notWeb
  /-- There is neither a token nor a user name with a password. -/
  | incomplete
  /-- The repository's address has no last part. -/
  | noDirectory (repository : String)
  deriving DecidableEq, Repr

namespace CloneError

/-- An error as a failure. -/
def toFailure : CloneError → Failure
  | .parameters cause => ⟨"invalid parameters for git_clone", [cause.message]⟩
  | .tokenAndCredentials =>
    .ofMessage "please provide either an access token or credentials but not both"
  | .partNotText name => .ofMessage ("git credentials field '" ++ name ++ "' must be a string")
  | .notCredentials => .ofMessage "git credentials must be a token string or a mapping"
  | .invalidUrl repository cause =>
    .ofMessage ("invalid repository URL '" ++ repository ++ "': " ++ cause.message)
  | .notWeb => .ofMessage "credentials can only be embedded in HTTP(S) repository URLs"
  | .incomplete =>
    .ofMessage "git credentials need a token or both a username and a password"
  | .noDirectory repository =>
    .ofMessage ("cannot derive a directory name from repository '" ++ repository ++ "'")

end CloneError

/-- What proves the right to read a repository. -/
structure Credentials where
  /-- The user name. -/
  username : Option String
  /-- The password. -/
  password : Option String
  /-- The token. -/
  token : Option String
  deriving DecidableEq, Repr

namespace Credentials

/-- Credentials that are a token alone. -/
def ofToken (token : String) : Credentials := ⟨none, none, some token⟩

/-- A part of credentials that are a mapping. -/
def part (fields : Fields) (name : String) : Except CloneError (Option String) :=
  match Fields.get? fields name with
  | none | some .null => .ok none
  | some (.string text) => .ok (some text)
  | some _ => .error (.partNotText name)

/-- The credentials of a mapping. Its token may have either of two names, the longer one first. -/
def ofFields (fields : Fields) : Except CloneError Credentials :=
  match part fields "username", part fields "password", part fields "access_token",
    part fields "token" with
  | .error e, _, _, _ => .error e
  | _, .error e, _, _ => .error e
  | _, _, .error e, _ => .error e
  | _, _, _, .error e => .error e
  | .ok username, .ok password, .ok accessToken, .ok token =>
    .ok ⟨username, password, accessToken.or token⟩

/-- The credentials that a value gives, if it is not null. -/
def ofJson : Json → Except CloneError (Option Credentials)
  | .null => .ok none
  | .string token => .ok (some (ofToken token))
  | .object fields => (ofFields fields).map some
  | _ => .error .notCredentials

/-- Whether one text occurs in another. -/
def occursIn (part : List Char) : List Char → Bool
  | [] => part.isEmpty
  | c :: rest => part.isPrefixOf (c :: rest) || occursIn part rest

/-- The user name and password by which a host expects credentials. Its name is looked at in small
letters. -/
def userFor (host : List Char) (credentials : Credentials) :
    Except CloneError (String × String) :=
  let host := host.map Char.toLower
  match credentials.token with
  | some token =>
    if occursIn ['b', 'i', 't', 'b', 'u', 'c', 'k', 'e', 't'] host then
      .ok (credentials.username.getD "x-token-auth", token)
    else if occursIn ['g', 'i', 't', 'l', 'a', 'b'] host then .ok ("oauth2", token)
    else .ok (token, "")
  | none =>
    match credentials.username, credentials.password with
    | some username, some password => .ok (username, password)
    | _, _ => .error .incomplete

/-- The parts of a repository's address with credentials in it, in place of any that it had. -/
def address [DomainNames] (repository : String) (credentials : Credentials) : Except CloneError Url :=
  match Url.parse repository.toList with
  | .error e => .error (.invalidUrl repository e)
  | .ok (.other _) => .error .notWeb
  | .ok (.web url) =>
    (credentials.userFor url.host.render).map fun (username, password) =>
      url.withUser username.toList password.toList

/-- A repository's address with credentials in it. -/
def embed [DomainNames] (repository : String) (credentials : Credentials) : Except CloneError String :=
  (credentials.address repository).map fun address => String.ofList address.render

end Credentials

end Runbook
