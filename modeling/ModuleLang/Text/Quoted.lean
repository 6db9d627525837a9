import ModuleLang.Unicode.GraphemeExtend
import ModuleLang.Unicode.Graphic

/-!
# `Text.Quoted` — characters and texts between quotes

Messages and tree dumps show a text so that every character in it can be told: between quotes, with a
backslash in front of the quote, and with marks and characters without a form written by code point.

## Contents
- **`isAttached`**, **`isVisible`**: marks, and characters with a form.
- **`escape`**: how one character is written between given quotes.
- **`quoteText`**, **`quoteChar`**: a text in double quotes, a character in single quotes.
-/

namespace ModuleLang.Text

open Unicode (isDefaultIgnorable isGraphemeExtend isGraphic)

/-- Whether a character is a mark on the one before it. The halfwidth sound marks belong to the character
    before them too, but they have a place of their own beside it. -/
def isAttached (c : Char) : Bool :=
  isGraphemeExtend c && !(c = '\uff9e' || c = '\uff9f')

/-- Whether a character has a form that is shown. -/
def isVisible (c : Char) : Bool :=
  isGraphic c && !isDefaultIgnorable c

/-- A character by its code point, in hexadecimal digits without leading zeros. -/
def escapeByCodePoint (c : Char) : String :=
  "\\u\x7b" ++ String.ofList (Nat.toDigits 16 c.toNat) ++ "\x7d"

/-- One character as it is written between two quotes of the given form. -/
def escape (quote c : Char) : String :=
  if c = '\x00' then "\\0"
  else if c = '\t' then "\\t"
  else if c = '\r' then "\\r"
  else if c = '\n' then "\\n"
  else if c = '\\' then "\\\\"
  else if c = quote then "\\" ++ c.toString
  else if isAttached c then escapeByCodePoint c
  else if isVisible c then c.toString
  else escapeByCodePoint c

/-- A text in double quotes. -/
def quoteText (text : String) : String :=
  "\"" ++ String.join (text.toList.map (escape '"')) ++ "\""

/-- A character in single quotes. -/
def quoteChar (c : Char) : String :=
  "'" ++ escape '\'' c ++ "'"

end ModuleLang.Text
