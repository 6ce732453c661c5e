/-!
Command lines as a POSIX shell reads them back: a word of harmless characters stands bare, any
other word stands in single quotes, and a single quote inside it in double quotes.
-/

namespace Handover.Text

def isHarmless (c : Char) : Bool :=
  c.isAlphanum || "_@%+=:,./-".toList.contains c

def shellWord (s : String) : String :=
  if s.isEmpty then "''"
  else if s.toList.all isHarmless then s
  else "'" ++ String.ofList (s.toList.flatMap fun c =>
    if c = '\x27' then "'\x22'\x22'".toList else [c]) ++ "'"

def shellLine (words : List String) : String :=
  String.intercalate " " (words.map shellWord)

end Handover.Text
