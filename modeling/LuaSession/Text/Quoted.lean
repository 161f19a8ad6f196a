import LuaSession.Number.Digits
import LuaSession.Unicode.Classes

/-!
# Quoted text

A text between quotes in which everything that cannot be seen is escaped: the usual letters after
a backslash, and the code in hexadecimal for other characters without a visible form and for marks
that join the character before them.
-/

namespace LuaSession.Text

open LuaSession.Number LuaSession.Unicode

/-- Whether a quoted text shows the character as it is. -/
def isShown (c : Char) : Bool :=
  if c.toNat < 0x7F then 0x20 ≤ c.toNat
  else visibleRanges.mem c.toNat && !extendingRanges.mem c.toNat

/-- The form of a character inside a quoted text. -/
def quotedChar (c : Char) : List Char :=
  if c = '\x00' then ['\\', '0']
  else if c = '\t' then ['\\', 't']
  else if c = '\r' then ['\\', 'r']
  else if c = '\n' then ['\\', 'n']
  else if c = '"' then ['\\', '"']
  else if c = '\\' then ['\\', '\\']
  else if isShown c then [c]
  else '\\' :: 'u' :: '\x7b' :: (hexChars 1 c.toNat ++ ['\x7d'])

/-- The quoted form of a text. -/
def quoted (s : List Char) : List Char :=
  '"' :: (s.flatMap quotedChar ++ ['"'])

/-- The quoted form of a string. -/
def quotedText (s : String) : String :=
  String.ofList (quoted s.toList)

end LuaSession.Text
