import Runbook.Text.Utf8

/-! # Octet texts

What machines store and programs exchange are bytes. An octet text is a text in which each character
stands for one byte, so that text functions serve for bytes too.

* **`Octets.ofText`**, **`Octets.text?`** — the octet text of a text, and the text of an octet text.
* **`Octets.ofBytes`**, **`Octets.toBytes`** — the same for bytes. -/

namespace Runbook.Octets

/-- The octet text of bytes. -/
def ofBytes (bytes : Bytes) : String :=
  String.ofList (bytes.map fun byte => Char.ofNat byte.toNat)

/-- The bytes of an octet text. -/
def toBytes (octets : String) : Bytes := octets.toList.map fun c => UInt8.ofNat c.toNat

/-- The octet text of a text in UTF-8. -/
def ofText (text : String) : String := ofBytes (Utf8.encode text)

/-- The text that an octet text holds in UTF-8, if it does. -/
def text? (octets : String) : Option String := Utf8.text? (toBytes octets)

end Runbook.Octets
