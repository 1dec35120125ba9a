import PaperTape.Text.Unseen

namespace PaperTape.Text

def escaped (c : Char) : String :=
  if c == '\x22' then "\\\x22"
  else if c == '\\' then "\\\\"
  else if c == '\n' then "\\n"
  else if c == '\r' then "\\r"
  else if c == '\t' then "\\t"
  else if c == '\x00' then "\\0"
  else if isUnseen c then "\\u\x7b" ++ String.ofList (Nat.toDigits 16 c.toNat) ++ "\x7d"
  else String.singleton c

def quoted (text : String) : String := "\x22" ++ String.join (text.toList.map escaped) ++ "\x22"

end PaperTape.Text
