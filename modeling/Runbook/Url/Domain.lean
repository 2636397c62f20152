/-! # Names of hosts

The name of a host may be written in any script, but it is looked up in ASCII. What a name is, and how
it is written in ASCII, is told by tables of all characters. These are no part of this library: whoever
uses web addresses hands in the ASCII form of names, and what is proved of addresses holds for every one
that obeys two laws of the standard of web addresses.

* **`DomainNames`** — the ASCII form of names.
* **`LawfulDomainNames`** — its laws.
* **`DomainNames.ascii`** — the ASCII form without tables, for names that are ASCII already. -/

namespace Runbook

/-- The ASCII form of the names of hosts. -/
class DomainNames where
  /-- The ASCII form of a name, or none if the text is no name. Characters that are forbidden in hosts
  are refused later on. -/
  toAscii? : List Char → Option (List Char)

namespace DomainNames

/-- Whether a text is ASCII and none of its parts between dots is marked as the ASCII form of another
text, by `xn--` at its start. -/
def IsPlain (text : List Char) : Prop :=
  (∀ c ∈ text, c.toNat < 128) ∧ ¬ ['.', 'x', 'n', '-', '-'] <:+: '.' :: text.map Char.toLower

/-- The ASCII form without tables: ASCII is written in small letters, marked parts as well, and all
other texts are refused. With tables, most of these are names, and some marked parts are refused. -/
@[reducible] def ascii : DomainNames where
  toAscii? text := if text.all (·.toNat < 128) then some (text.map Char.toLower) else none

end DomainNames

/-- The laws of the ASCII form of names. -/
class LawfulDomainNames [DomainNames] : Prop where
  /-- A plain text is a name, and it is written in small letters. -/
  toAscii?_of_isPlain : ∀ {text : List Char}, DomainNames.IsPlain text →
    DomainNames.toAscii? text = some (text.map Char.toLower)
  /-- The ASCII form of a name is a name, and its own ASCII form. -/
  toAscii?_of_toAscii? : ∀ {text name : List Char}, DomainNames.toAscii? text = some name →
    DomainNames.toAscii? name = some name

end Runbook
