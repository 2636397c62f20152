import Runbook.Machine.Escape

/-! # Quoted texts in the messages of programs

* **`Quoting.visible`** — a text between single quotes in which each byte can be seen.
* **`Quoting.name`** — the name of a file, in quotes only if a shell would need them.
* **`Quoting.reusable`** — a text in a form that a shell reads back. -/

namespace Runbook.Quoting

/-- The letter of the escape for a control character, if there is one. -/
def controlLetter? : Char → Option Char
  | '\x07' => some 'a'
  | '\x08' => some 'b'
  | '\t' => some 't'
  | '\n' => some 'n'
  | '\x0b' => some 'v'
  | '\x0c' => some 'f'
  | '\r' => some 'r'
  | _ => none

/-- Whether a byte can be seen as it is. -/
def isPlain (c : Char) : Bool := ' ' ≤ c && c ≤ '~'

/-- The escape of a byte that cannot be seen. -/
def escape (c : Char) : List Char :=
  match controlLetter? c with
  | some letter => ['\\', letter]
  | none =>
    let digits := Nat.toDigits 8 c.toNat
    '\\' :: (List.replicate (3 - digits.length) '0' ++ digits)

/-- A text between single quotes in which each byte can be seen. -/
def visible (text : String) : String :=
  let inside := text.toList.flatMap fun c =>
    if c == '\'' || c == '\\' then ['\\', c] else if isPlain c then [c] else escape c
  "'" ++ String.ofList inside ++ "'"

/-- Whether a character means something to a shell wherever it stands. -/
def isActive (c : Char) : Bool := " !\"$&'()*;<=>?[\\^|".toList.contains c || c == Char.ofNat 96

/-- Whether a text must be quoted for a shell. -/
def isOpen (text : String) : Bool :=
  text.isEmpty || text.toList.any (fun c => isActive c || !isPlain c)
    || "#~".toList.contains (text.toList.headD ' ')
    || text = "\x7b" || text = "\x7d"

/-- The parts of a quoted text: bytes that can be seen stand between single quotes, and the others as
escapes between quotes that allow them. -/
def segments (escaped : Bool) : List Char → List Char
  | [] => if escaped then ['\''] else []
  | c :: rest =>
    if isPlain c then
      let opening := if escaped then ['\'', '\''] else []
      let body := if c == '\'' then ['\'', '\\', '\'', '\''] else [c]
      opening ++ body ++ segments false rest
    else
      let opening := if escaped then [] else ['\'', '$', '\'']
      opening ++ escape c ++ segments true rest

/-- A text in a form that a shell reads back. -/
def reusable (text : String) : String :=
  if !isOpen text then text
  else
    let chars := text.toList
    let special (c : Char) : Bool := "\"$\\!".toList.contains c || c == Char.ofNat 96
    if chars.contains '\'' && chars.all isPlain && !chars.any special then "\"" ++ text ++ "\""
    else
      let body := segments false chars
      let closing := if isPlain (chars.getLastD ' ') then ['\''] else []
      String.ofList ('\'' :: (body ++ closing))

/-- The name of a file in a message. -/
def name (text : String) : String :=
  if text.toList.contains ':' && !isOpen text then "'" ++ text ++ "'" else reusable text

end Runbook.Quoting
