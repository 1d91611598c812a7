/-
White space by Unicode's White_Space property, and trimming by it.

A name of blanks alone is no name (`isBlankText`), and the text of a value may
be surrounded by any white space (`trim`).
-/

namespace Telemetry.Text

/-- The characters with the property White_Space. -/
def isBlank (c : Char) : Bool :=
  let n := c.toNat
  (9 ≤ n && n ≤ 13) || n == 0x20 || n == 0x85 || n == 0xA0 || n == 0x1680 ||
    (0x2000 ≤ n && n ≤ 0x200A) || n == 0x2028 || n == 0x2029 || n == 0x202F ||
    n == 0x205F || n == 0x3000

/-- What is left of `cs` without the blanks at its end. -/
def dropBlankEnd (cs : List Char) : List Char :=
  (cs.reverse.dropWhile isBlank).reverse

/-- What is left of `cs` without the blanks at either end. -/
def trimChars (cs : List Char) : List Char :=
  dropBlankEnd (cs.dropWhile isBlank)

def trim (s : String) : String :=
  String.ofList (trimChars s.toList)

/-- No character but blanks, or no character. -/
def isBlankText (s : String) : Bool :=
  s.toList.all isBlank

def dropSlashEnd (s : String) : String :=
  String.ofList (s.toList.reverse.dropWhile (· == '/')).reverse

end Telemetry.Text
