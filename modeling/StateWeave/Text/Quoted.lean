import StateWeave.Text.Printable

/-! Quoted texts as messages show them: single quotes unless the text holds a single quote and no
double one; the backslash, the quote in use and all that is not shown as it is are escaped. -/

namespace StateWeave.Quoted

def hexDigits : Nat → Nat → List Char
  | 0, _ => []
  | width + 1, n => hexDigits width (n / 16) ++ [Nat.digitChar (n % 16)]

def numberedOctet (n : Nat) : List Char :=
  '\\' :: 'x' :: hexDigits 2 n

def numbered (c : Char) : List Char :=
  if c.toNat < 0x100 then numberedOctet c.toNat
  else if c.toNat < 0x10000 then '\\' :: 'u' :: hexDigits 4 c.toNat
  else '\\' :: 'U' :: hexDigits 8 c.toNat

def quoteFor (cs : List Char) : Char :=
  if cs.contains '\'' && !cs.contains '"' then '"' else '\''

def escape (quote c : Char) : List Char :=
  if c = quote || c = '\\' then ['\\', c]
  else if c = '\n' then ['\\', 'n']
  else if c = '\r' then ['\\', 'r']
  else if c = '\t' then ['\\', 't']
  else if Printable.isShown c then [c]
  else numbered c

def inner (cs : List Char) : List Char :=
  cs.flatMap (escape (quoteFor cs))

def encode (cs : List Char) : List Char :=
  quoteFor cs :: inner cs ++ [quoteFor cs]

def text (s : String) : String :=
  String.ofList (encode s.toList)

def escapeOctet (quote : Char) (o : UInt8) : List Char :=
  if o < 0x80 then escape quote (Char.ofNat o.toNat) else numberedOctet o.toNat

def octets (os : List UInt8) : String :=
  let q := quoteFor (os.map fun o => Char.ofNat o.toNat)
  String.ofList ('b' :: q :: os.flatMap (escapeOctet q) ++ [q])

end StateWeave.Quoted
