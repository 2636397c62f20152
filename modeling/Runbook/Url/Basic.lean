import Runbook.Url.Host

/-! # Web addresses

* **`Url`** — the parts of an `http` or `https` address, each in its only written form.
* **`Url.parse`** — the parts of a text; addresses of other schemes are only recognised.
* **`Url.render`** — the text of the parts.
* **`Url.withUser`** — an address with another user name and password. -/

namespace Runbook

/-- The parts of an `http` or `https` address. -/
structure Url where
  /-- Whether the scheme is `https`. -/
  secure : Bool
  /-- The user name, percent encoded; empty if there is none. -/
  username : List Char
  /-- The password, percent encoded; empty if there is none. -/
  password : List Char
  /-- The host. -/
  host : WebHost
  /-- The port, unless it is the usual one of the scheme. -/
  port : Option Nat
  /-- The segments of the path, percent encoded. -/
  path : List (List Char)
  /-- The query, percent encoded. -/
  query : Option (List Char)
  /-- The fragment, percent encoded. -/
  fragment : Option (List Char)
  deriving DecidableEq, Repr

/-- What a text with a scheme is. -/
inductive Address where
  /-- An address of the web. -/
  | web (url : Url)
  /-- An address of another scheme. -/
  | other (scheme : List Char)
  deriving DecidableEq, Repr

namespace Url

/-! ## Writing -/

/-- The text of a scheme. -/
def schemeText (secure : Bool) : List Char :=
  if secure then ['h', 't', 't', 'p', 's'] else ['h', 't', 't', 'p']

/-- The usual port of a scheme. -/
def usualPort (secure : Bool) : Nat := if secure then 443 else 80

/-- The text of a user name and a password. -/
def userText (username password : List Char) : List Char :=
  if username.isEmpty && password.isEmpty then []
  else if password.isEmpty then username ++ ['@']
  else username ++ ':' :: (password ++ ['@'])

/-- The text of the part that follows a mark, if there is one. -/
def markedText (mark : Char) : Option (List Char) → List Char
  | none => []
  | some text => mark :: text

/-- The text of a port. -/
def portText : Option Nat → List Char
  | none => []
  | some port => ':' :: Binary64.digitsText port

/-- The text of a path. -/
def pathText (segments : List (List Char)) : List Char :=
  segments.flatMap fun segment => '/' :: segment

/-- The text of an address. -/
def render (url : Url) : List Char :=
  schemeText url.secure ++ ':' :: '/' :: '/' :: (userText url.username url.password
    ++ url.host.render ++ portText url.port ++ pathText url.path ++ markedText '?' url.query
    ++ markedText '#' url.fragment)

/-- An address with another user name and password, which are encoded. -/
def withUser (url : Url) (username password : List Char) : Url :=
  { url with
    username := Percent.encode Percent.isUserUnsafe username
    password := Percent.encode Percent.isUserUnsafe password }

/-! ## Reading -/

/-- Whether a character is cut off at the ends of a text: a space or a control. -/
def isPadding (c : Char) : Bool := c.toNat ≤ 32

/-- Whether a character is passed over wherever it stands. -/
def isIgnored (c : Char) : Bool := c == '\t' || c == '\n' || c == '\r'

/-- The characters of a text that count. -/
def clean (text : List Char) : List Char :=
  (((text.dropWhile isPadding).reverse.dropWhile isPadding).reverse).filter fun c => !isIgnored c

/-- Whether a character may stand in a scheme after its first letter. -/
def isSchemeChar (c : Char) : Bool := c.isAlphanum || c == '+' || c == '-' || c == '.'

/-- The scheme of a text, in small letters, and what follows its colon. -/
def cutScheme (text : List Char) : Option (List Char × List Char) :=
  match text with
  | [] => none
  | first :: _ =>
    if first.isAlpha then
      match text.dropWhile isSchemeChar with
      | ':' :: rest => some ((text.takeWhile isSchemeChar).map Char.toLower, rest)
      | _ => none
    else none

/-- Whether a character ends the authority of an address; a backslash is a slash on the web. -/
def endsAuthority (web : Bool) (c : Char) : Bool :=
  c == '/' || c == '?' || c == '#' || (web && c == '\\')

/-- The text before the last `@`, if there is one, and the text after it. -/
def cutUser (text : List Char) : Option (List Char) × List Char :=
  let after := (text.reverse.takeWhile (· != '@')).reverse
  if text.contains '@' then (some (text.take (text.length - after.length - 1)), after)
  else (none, text)

/-- The host of an authority, up to a colon outside brackets, and what follows it. -/
def cutHost (bracketed : Bool) : List Char → List Char × List Char
  | [] => ([], [])
  | c :: rest =>
    if c = ':' ∧ !bracketed then ([], c :: rest)
    else
      let (host, after) := cutHost (if c = '[' then true else if c = ']' then false else bracketed) rest
      (c :: host, after)

/-- The port after a colon: a number below 65536, or nothing. -/
def readPort (text : List Char) : Except UrlError (Option Nat) :=
  if text.all Char.isDigit then
    if text.isEmpty then .ok none
    else
      let port := text.foldl (fun total c => total * 10 + (c.toNat - 48)) 0
      if port < 65536 then .ok (some port) else .error .invalidPort
  else .error .invalidPort

/-- The port of what follows a host. -/
def readPortPart : List Char → Except UrlError (Option Nat)
  | ':' :: text => readPort text
  | _ => .ok none

/-- The user name and the password of the text before an `@`, both encoded. -/
def readUser (text : List Char) : List Char × List Char :=
  let encode := Percent.encode Percent.isUserUnsafe
  match text.dropWhile (· != ':') with
  | [] => (encode text, [])
  | _ :: password => (encode (text.takeWhile (· != ':')), encode password)

/-- Whether an encoded segment means the directory itself. -/
def isSingleDot (segment : List Char) : Bool :=
  segment == ['.'] || segment.map Char.toLower == ['%', '2', 'e']

/-- Whether an encoded segment means the directory above. -/
def isDoubleDot (segment : List Char) : Bool :=
  let small := segment.map Char.toLower
  small == ['.', '.'] || small == ['.', '%', '2', 'e'] || small == ['%', '2', 'e', '.']
    || small == ['%', '2', 'e', '%', '2', 'e']

/-- Whether a text is a drive letter, which is no host of a file and stays in every path. -/
def isDriveLetter : List Char → Bool
  | [letter, mark] => letter.isAlpha && (mark == ':' || mark == '|')
  | _ => false

/-- The segments, in reverse, of the directory above: all but the last, unless that is a drive
letter. -/
def above : List (List Char) → List (List Char)
  | [] => []
  | last :: rest => if isDriveLetter last then last :: rest else rest

/-- Resolves the dots of encoded segments after those in `done`, which is held in reverse. A path
that ends in dots ends in an empty segment. -/
def resolveDots (done : List (List Char)) : List (List Char) → List (List Char)
  | [] => done.reverse
  | [last] =>
    if isDoubleDot last then ([] :: above done).reverse
    else if isSingleDot last then ([] :: done).reverse
    else (last :: done).reverse
  | segment :: rest =>
    if isDoubleDot segment then resolveDots (above done) rest
    else if isSingleDot segment then resolveDots done rest
    else resolveDots (segment :: done) rest

/-- The segments of a text between slashes and backslashes. -/
def splitPath : List Char → List (List Char)
  | [] => [[]]
  | c :: rest =>
    if c = '/' ∨ c = '\\' then [] :: splitPath rest
    else
      match splitPath rest with
      | [] => [[c]]
      | segment :: segments => (c :: segment) :: segments

/-- The segments of a path, encoded and without dots. -/
def readPath (text : List Char) : List (List Char) :=
  let text := match text with
    | '/' :: rest | '\\' :: rest => rest
    | rest => rest
  resolveDots [] ((splitPath text).map (Percent.encode Percent.isPathUnsafe))

/-- The query after a question mark, if there is one, encoded. -/
def readQuery : List Char → Option (List Char)
  | '?' :: text => some (Percent.encode Percent.isQueryUnsafe text)
  | _ => none

/-- The fragment after a number sign, if there is one, encoded. -/
def readFragment : List Char → Option (List Char)
  | '#' :: text => some (Percent.encode Percent.isFragmentUnsafe text)
  | _ => none

/-- Reads an address of the web after the colon of its scheme. Any slashes may come first. -/
def readWeb [DomainNames] (secure : Bool) (text : List Char) : Except UrlError Url := do
  let text := text.dropWhile fun c => c == '/' || c == '\\'
  let authority := text.takeWhile fun c => !endsAuthority true c
  let rest := text.dropWhile fun c => !endsAuthority true c
  let (user?, place) := cutUser authority
  let (username, password) := readUser (user?.getD [])
  let (hostText, portPart) := cutHost false place
  -- the host is looked at before the port
  if hostText.isEmpty then throw .emptyHost
  let host ← WebHost.parse hostText
  let port ← readPortPart portPart
  let beforeFragment := rest.takeWhile (· != '#')
  return {
    secure, username, password, host
    port := if port = some (usualPort secure) then none else port
    path := readPath (beforeFragment.takeWhile (· != '?'))
    query := readQuery (beforeFragment.dropWhile (· != '?'))
    fragment := readFragment (rest.dropWhile (· != '#')) }

/-- The port at the start of a text; a backslash may follow it. -/
def checkPort : List Char → Except UrlError Unit
  | ':' :: text => (readPort (text.takeWhile (· != '\\'))).map fun _ => ()
  | _ => .ok ()

/-- Checks what follows the colon of any other scheme. -/
def checkOther : List Char → Except UrlError Unit
  | '/' :: '/' :: text => do
    let authority := text.takeWhile fun c => !endsAuthority false c
    let more := !(text.dropWhile fun c => !endsAuthority false c).isEmpty
    let (user?, place) := cutUser authority
    if user? = some [] ∧ place.isEmpty ∧ more then throw .emptyHost
    let (username, password) := readUser (user?.getD [])
    let (hostText, portPart) := cutHost false place
    WebHost.checkOpaque hostText
    if hostText.isEmpty ∧ portPart.head? = some ':' then throw .emptyHost
    checkPort portPart
    if hostText.isEmpty ∧ !(username.isEmpty && password.isEmpty) then throw .emptyHost
  | _ => .ok ()

/-- Checks what follows the colon of a file's address. -/
def checkFile [DomainNames] (text : List Char) : Except UrlError Unit :=
  let isSlash := fun c => c == '/' || c == '\\'
  match text with
  | first :: second :: rest =>
    if isSlash first && isSlash second then
      let host := rest.takeWhile fun c => !endsAuthority true c
      if host.isEmpty || isDriveLetter host then .ok () else (WebHost.parse host).map fun _ => ()
    else .ok ()
  | _ => .ok ()

/-- What a text is an address of. -/
def parse [DomainNames] (text : List Char) : Except UrlError Address :=
  match cutScheme (clean text) with
  | none => .error .relativeWithoutBase
  | some (scheme, rest) =>
    if scheme = schemeText true then (readWeb true rest).map .web
    else if scheme = schemeText false then (readWeb false rest).map .web
    else if scheme = ['f', 't', 'p'] ∨ scheme = ['w', 's'] ∨ scheme = ['w', 's', 's'] then
      (readWeb false rest).map fun _ => .other scheme
    else if scheme = ['f', 'i', 'l', 'e'] then (checkFile rest).map fun _ => .other scheme
    else (checkOther rest).map fun _ => .other scheme

end Url

end Runbook
