import ApiOutline.Text.Half

/-!
Classes of characters in YAML text, which holds no halves of characters. Beside the two common line
breaks there are U+0085, U+2028 and U+2029; of these the last two are kept as they are where lines
are joined.
-/
namespace ApiOutline.Yaml

def isAllowed (c : Char) : Bool :=
  let n := c.toNat
  n == 9 || n == 10 || n == 13 || (0x20 ≤ n && n ≤ 0x7e) || n == 0x85
    || (0xa0 ≤ n && n ≤ 0xfffd) || (0x10000 ≤ n && (Text.half? c).isNone)

def isBreak (c : Char) : Bool :=
  c = '\n' || c = '\r' || c.toNat == 0x85 || c.toNat == 0x2028 || c.toNat == 0x2029

def isMark (c : Char) : Bool := c.toNat == 0xfeff

def isSpace (c : Char) : Bool := c = ' ' || c = '\t'

def isGap (c : Char) : Bool := isSpace c || isBreak c

def endsOr (p : Char → Bool) : List Char → Bool
  | [] => true
  | c :: _ => p c

def isNameChar (c : Char) : Bool := c.isAlphanum || c = '-' || c = '_'

def isTagChar (c : Char) : Bool := c.isAlphanum || "-;/?:@&=+$,_.!~*'()[]".toList.contains c

def isIndicator (c : Char) : Bool := "-?:,[]\x7b\x7d#&*!|>'\"%@".toList.contains c || c.toNat == 96

def isFlowIndicator (c : Char) : Bool := ",[]\x7b\x7d".toList.contains c

end ApiOutline.Yaml
