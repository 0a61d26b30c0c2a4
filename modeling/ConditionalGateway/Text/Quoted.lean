import ConditionalGateway.Unicode.Classes

/-!
# Quoted text

How a text or a character is shown in a message: between quotes, with a
backslash before the quote and the backslash, the common controls by letter,
and by number whatever would not be seen or would join its neighbour.
-/

namespace ConditionalGateway.Text

def hexDigits (n : Nat) : List Char := Nat.toDigits 16 n

def byNumber (c : Char) : List Char := ['\\', 'u', '\x7b'] ++ hexDigits c.toNat ++ ['\x7d']

def isShownByNumber (c : Char) : Bool :=
  Unicode.isGraphemeExtend c || !Unicode.isPrintable c

def escapeChar (quote c : Char) : List Char :=
  if c = '\x00' then ['\\', '0']
  else if c = '\t' then ['\\', 't']
  else if c = '\r' then ['\\', 'r']
  else if c = '\n' then ['\\', 'n']
  else if c = '\\' then ['\\', '\\']
  else if c = quote then ['\\', c]
  else if isShownByNumber c then byNumber c
  else [c]

def quoted (s : String) : String :=
  String.ofList (['"'] ++ s.toList.flatMap (escapeChar '"') ++ ['"'])

def quotedChar (c : Char) : String :=
  String.ofList (['\''] ++ escapeChar '\'' c ++ ['\''])

end ConditionalGateway.Text
