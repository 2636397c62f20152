/-! # Shell patterns

In a pattern an unquoted star stands for any text, a question mark for any character, and brackets for
one of several characters. A backslash that is not quoted takes the meaning of the next character away.
Texts are octet texts.

* **`Pattern`** — characters, each with whether it was quoted.
* **`Pattern.elements`** — what a pattern asks of a text.
* **`Pattern.accepts`** — whether a pattern matches a whole text.
* **`Pattern.place?`** — where a pattern cuts a text that it matches in part. -/

namespace Runbook.Shell

/-- The characters of a pattern, each with whether it stands for itself because it was quoted. -/
abbrev Pattern := List (Char × Bool)

namespace Pattern

/-- The text of a pattern. -/
def text (pattern : Pattern) : List Char := pattern.map Prod.fst

/-- A pattern in which backslashes that are not quoted have quoted what follows them. -/
def resolve : Pattern → Pattern
  | [] => []
  | [(c, quoted)] => [(c, quoted || c == '\\')]
  | (c, quoted) :: (d, next) :: rest =>
    if c == '\\' && !quoted then (d, true) :: resolve rest
    else (c, quoted) :: resolve ((d, next) :: rest)

/-- Whether a character of a pattern is a given one without quotes. -/
def isBare (c : Char) (entry : Char × Bool) : Bool := entry == (c, false)

/-! ### Brackets -/

/-- What stands between brackets. -/
inductive Item where
  /-- A character. -/
  | single (c : Char)
  /-- The characters from one to another. -/
  | range (low high : Char)
  /-- The characters that pass a test. -/
  | class (test : Char → Bool)

/-- The number of a byte when its first bit is a sign. -/
def signedValue (c : Char) : Int := if c.toNat < 128 then c.toNat else (c.toNat : Int) - 256

/-- Whether a character is one of those that an item stands for. -/
def Item.holds (c : Char) : Item → Bool
  | single d => c == d
  | range low high => signedValue low ≤ signedValue c && signedValue c ≤ signedValue high
  | .class test => test c

/-- The classes of characters. -/
def classes : List (String × (Char → Bool)) :=
  [("alnum", fun c => c.isAlphanum),
    ("cntrl", fun c => c.toNat < 32 || c.toNat = 127),
    ("lower", fun c => c.isLower),
    ("space", fun c => c == ' ' || ('\t' ≤ c && c ≤ '\r')),
    ("alpha", fun c => c.isAlpha),
    ("digit", fun c => c.isDigit),
    ("print", fun c => ' ' ≤ c && c ≤ '~'),
    ("upper", fun c => c.isUpper),
    ("blank", fun c => c == ' ' || c == '\t'),
    ("graph", fun c => '!' ≤ c && c ≤ '~'),
    ("punct", fun c => '!' ≤ c && c ≤ '~' && !c.isAlphanum),
    ("xdigit", fun c => c.isDigit || ('a' ≤ c && c ≤ 'f') || ('A' ≤ c && c ≤ 'F'))]

/-- The class that stands behind an opening bracket between brackets, and what follows it. -/
def class? (pattern : Pattern) : Option ((Char → Bool) × Pattern) :=
  classes.findSome? fun (name, test) =>
    let mark : Pattern := (":" ++ name ++ ":]").toList.map fun c => (c, false)
    if mark.isPrefixOf pattern then some (test, pattern.drop mark.length) else none

/-- The item that begins with a character, and what follows it; nothing does if the pattern ends within
the item. -/
def item (first : Char × Bool) (rest : Pattern) : Item × Pattern :=
  match if isBare '[' first then class? rest else none with
  | some (test, rest) => (.class test, rest)
  | none =>
    match rest with
    | [dash] => (.single first.1, if isBare '-' dash then [] else rest)
    | dash :: last :: after =>
      if isBare '-' dash && !isBare ']' last then (.range first.1 last.1, after)
      else (.single first.1, rest)
    | [] => (.single first.1, [])

/-- The items up to the closing bracket, of which there is at least one, and what follows that. There
is no result if no bracket closes. -/
def items : (fuel : Nat) → Pattern → Option (List Item × Pattern)
  | 0, _ => none
  | _ + 1, [] => none
  | fuel + 1, first :: rest =>
    match item first rest with
    | (_, []) => none
    | (found, next :: rest) =>
      if isBare ']' next then some ([found], rest)
      else (items fuel (next :: rest)).map fun (more, rest) => (found :: more, rest)

/-! ### Matching -/

/-- What a pattern asks of a part of a text. -/
inductive Element where
  /-- Any text. -/
  | anyText
  /-- Any character. -/
  | anyChar
  /-- A character. -/
  | char (c : Char)
  /-- A character that is among some items, or is not. -/
  | oneOf (negated : Bool) (items : List Item)

/-- Whether a character is what an element asks for. -/
def Element.holds (c : Char) : Element → Bool
  | anyText | anyChar => true
  | char d => c == d
  | oneOf negated items => items.any (Item.holds c) != negated

/-- The brackets of which the first has been passed, and what follows them. -/
def bracket? : Pattern → Option (Element × Pattern)
  | first :: rest =>
    let negated := isBare '!' first
    let inside := if negated then rest else first :: rest
    (items inside.length inside).map fun (found, rest) => (.oneOf negated found, rest)
  | [] => none

/-- What a pattern, in which no backslash quotes anything, asks of a text. -/
def elementsFrom : (fuel : Nat) → Pattern → List Element
  | 0, _ => []
  | _ + 1, [] => []
  | fuel + 1, first :: rest =>
    if isBare '*' first then .anyText :: elementsFrom fuel rest
    else if isBare '?' first then .anyChar :: elementsFrom fuel rest
    else
      match if isBare '[' first then bracket? rest else none with
      | some (found, rest) => found :: elementsFrom fuel rest
      | none => .char first.1 :: elementsFrom fuel rest

/-- What a pattern asks of a text. -/
def elements (pattern : Pattern) : List Element :=
  elementsFrom pattern.length pattern.resolve

/-- Which starts of a text match when an element follows what matched before; the starts are in order
of their lengths, from the empty one on. -/
def follow (text : List Char) (matched : List Bool) : Element → List Bool
  | .anyText => (matched.foldl (fun (found, any) flag => ((any || flag) :: found, any || flag))
      (([] : List Bool), false)).1.reverse
  | element => false :: List.zipWith (fun flag c => flag && element.holds c) matched text

/-- Which starts of a text match elements, in order of their lengths. -/
def starts (elements : List Element) (text : List Char) : List Bool :=
  elements.foldl (follow text) (true :: List.replicate text.length false)

/-- Which ends of a text match elements, in order of their places. -/
def ends (elements : List Element) (text : List Char) : List Bool :=
  (starts elements.reverse text.reverse).reverse

/-- Whether a pattern matches a whole text. -/
def accepts (pattern : Pattern) (text : List Char) : Bool :=
  (starts pattern.elements text).getLastD false

/-- How many flags stand before the last one that is up. -/
def lastUp? (flags : List Bool) : Option Nat :=
  (flags.reverse.findIdx? id).map fun index => flags.length - 1 - index

/-- How many characters of a text stand before the place at which a pattern cuts it: the pattern matches
what is before it or what is behind it, and as much as possible or as little. What is compared ends at a
NUL, and a search from the start does so too. -/
def place? (front longest : Bool) (pattern : Pattern) (text : List Char) : Option Nat :=
  let elements := pattern.elements
  let pieces := text.splitOnP (· == '\x00')
  let first := pieces.headD []
  match front, longest with
  | true, false => (starts elements first).findIdx? id
  | true, true =>
    let flags := starts elements first
    if flags.getLastD false then some text.length else lastUp? flags
  | false, true => (ends elements first).findIdx? id
  | false, false => lastUp? (pieces.flatMap (ends elements))

end Pattern

end Runbook.Shell
