import DocSections.Text.Printable

/-! Texts and characters between quotes as messages show them: what would not show on its own is
written by its number. -/

namespace DocSections.Text

def quotedChar (c : Char) : List Char :=
  if c = '"' then ['\\', '"']
  else if c = '\\' then ['\\', '\\']
  else if c = '\n' then ['\\', 'n']
  else if c = '\r' then ['\\', 'r']
  else if c = '\t' then ['\\', 't']
  else if c.toNat = 0 then ['\\', '0']
  else if isPrintable c then [c]
  else "\\u\x7b".toList ++ Nat.toDigits 16 c.toNat ++ ['\x7d']

def quoted (s : String) : String := "\"" ++ String.ofList (s.toList.flatMap quotedChar) ++ "\""

def quotedAlone (c : Char) : String :=
  let body := if c = '\x27' then ['\\', c] else if c = '"' then [c] else quotedChar c
  "'" ++ String.ofList body ++ "'"

example : quoted "é\"\u200b" = "\"é\\\"\\u\x7b200b\x7d\"" := by decide +kernel

end DocSections.Text
