/-!
# Markup-safe text

Text written into markup: the five characters that markup gives a meaning become entities, all
others stand for themselves.
-/
namespace MessageInspector.Markup

def escapeChar (c : Char) : List Char :=
  if c = '&' then ['&', 'a', 'm', 'p', ';']
  else if c = '<' then ['&', 'l', 't', ';']
  else if c = '>' then ['&', 'g', 't', ';']
  else if c = '\x22' then ['&', 'q', 'u', 'o', 't', ';']
  else if c = '\x27' then ['&', '#', '3', '9', ';']
  else [c]

def escape (s : String) : String := String.ofList (s.toList.flatMap escapeChar)

@[simp] theorem toList_escape (s : String) :
    (escape s).toList = s.toList.flatMap escapeChar := String.toList_ofList

end MessageInspector.Markup
