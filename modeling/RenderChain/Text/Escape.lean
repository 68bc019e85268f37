/-
  RenderChain/Text/Escape.lean
  ============================
  **Characters that are written as something else.**

  Hexadecimal digits write numbers and bytes, in lower case, and are read back in
  either case.

  A quoted text stands between quotation marks.  The marks, the backslash and the
  line controls are escaped by a backslash, and every character that would not
  show is written by its number, as in `\u{301}`.  This is how templates print the
  strings inside lists and maps, how error reports name a template, and how
  diagnostic texts show names.

  For HTML and XML the characters that could open or close a tag, an entity or a
  quoted attribute are written as character references.
-/
import RenderChain.Text.Unicode

namespace RenderChain.Text

/-! ## Hexadecimal digits -/

/-- The digit of a number below sixteen. -/
def hexDigit (n : Nat) : Char := Char.ofNat (if n < 10 then 48 + n else 87 + n)

/-- The value of a digit, in lower or upper case. -/
def hexValue? (c : Char) : Option Nat :=
  if '0' ≤ c ∧ c ≤ '9' then some (c.toNat - 48)
  else if 'a' ≤ c ∧ c ≤ 'f' then some (c.toNat - 87)
  else if 'A' ≤ c ∧ c ≤ 'F' then some (c.toNat - 55)
  else none

/-- The digits of `n` in base sixteen. -/
def hexText (n : Nat) : List Char := Nat.toDigits 16 n

/-- Every byte as two digits. -/
def hexBytes (bytes : List UInt8) : String :=
  String.ofList (bytes.flatMap fun b => [hexDigit (b.toNat / 16), hexDigit (b.toNat % 16)])

/-! ## Quoted texts -/

/-- One character inside quotation marks. -/
def quotedChar (c : Char) : List Char :=
  if c = '"' then ['\\', '"']
  else if c = '\\' then ['\\', '\\']
  else if c = '\n' then ['\\', 'n']
  else if c = '\r' then ['\\', 'r']
  else if c = '\t' then ['\\', 't']
  else if c = '\x00' then ['\\', '0']
  else if isPrintable c then [c]
  else '\\' :: 'u' :: '{' :: hexText c.toNat ++ ['}']

def quoted (s : String) : String :=
  "\"" ++ String.ofList (s.toList.flatMap quotedChar) ++ "\""

/-! ## Markup -/

def markupChar (c : Char) : List Char :=
  if c = '&' then "&amp;".toList
  else if c = '<' then "&lt;".toList
  else if c = '>' then "&gt;".toList
  else if c = '"' then "&quot;".toList
  else if c = '\'' then "&#x27;".toList
  else if c = '/' then "&#x2f;".toList
  else [c]

def escapeMarkup (s : String) : String := String.ofList (s.toList.flatMap markupChar)

end RenderChain.Text
