import MessageAbi.Text.Unprintable

/-!
This module contains the quoted form of text inside messages: quotes around it, and escapes for
quotes, backslashes and characters without a printed form.
-/

namespace MessageAbi.Text

def escape (quote c : Char) : List Char :=
  if c = '\n' then ['\\', 'n']
  else if c = '\r' then ['\\', 'r']
  else if c = '\t' then ['\\', 't']
  else if c.toNat = 0 then ['\\', '0']
  else if c = quote ∨ c = '\\' then ['\\', c]
  else if isUnprintable c then
    ['\\', 'u', '{'] ++ Nat.toDigits 16 c.toNat ++ ['}']
  else [c]

def quoted (text : String) : String :=
  String.ofList (['"'] ++ text.toList.flatMap (escape '"') ++ ['"'])

def quotedChar (c : Char) : String :=
  String.ofList (['\''] ++ escape '\'' c ++ ['\''])

end MessageAbi.Text
