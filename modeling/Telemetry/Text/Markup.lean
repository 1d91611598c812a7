/-
Text on a page of markup: the five characters that mean something there are
written as entities, so no text can open a tag or close an attribute.
-/

namespace Telemetry.Text.Markup

def escapeChar (c : Char) : List Char :=
  if c = '&' then ['&', 'a', 'm', 'p', ';']
  else if c = '<' then ['&', 'l', 't', ';']
  else if c = '>' then ['&', 'g', 't', ';']
  else if c = '"' then ['&', 'q', 'u', 'o', 't', ';']
  else if c = '\'' then ['&', '#', '3', '9', ';']
  else [c]

def escape (s : String) : String :=
  String.ofList (s.toList.flatMap escapeChar)

end Telemetry.Text.Markup
