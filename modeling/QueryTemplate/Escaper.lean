/-! # Escaping: how a text is made safe between quotes

A database driver says how its string literals and its identifiers are escaped; everything else is
independent of the driver.
-/

namespace QueryTemplate

def doubleBacktick (c : Char) : List Char := if c = '\x60' then ['\x60', '\x60'] else [c]

def escapeBackticks (name : String) : String := String.ofList (name.toList.flatMap doubleBacktick)

/-- The text between the quotes for a string literal and for an identifier. -/
structure Escaper where
  text : String → String
  identifier : String → String := escapeBackticks

namespace Escaper

/-- The backslash escapes of MySQL on a UTF-8 connection. -/
def backslash : Char → List Char
  | '\x00' => ['\\', '0']
  | '\n' => ['\\', 'n']
  | '\r' => ['\\', 'r']
  | '\\' => ['\\', '\\']
  | '\'' => ['\\', '\'']
  | '"' => ['\\', '"']
  | '\x1a' => ['\\', 'Z']
  | c => [c]

def mySql : Escaper where
  text s := String.ofList (s.toList.flatMap backslash)

end Escaper

theorem toList_escapeBackticks (name : String) :
    (escapeBackticks name).toList = name.toList.flatMap doubleBacktick := String.toList_ofList

theorem Escaper.toList_mySql (s : String) :
    (Escaper.mySql.text s).toList = s.toList.flatMap Escaper.backslash := String.toList_ofList

end QueryTemplate
