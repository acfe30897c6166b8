/-! Blank characters: the characters with the Unicode property White_Space. -/

namespace ImageVerification.Text

def isBlank (c : Char) : Bool :=
  let code := c.toNat
  (9 ≤ code && code ≤ 13) || code == 0x20 || code == 0x85 || code == 0xa0 || code == 0x1680
    || (0x2000 ≤ code && code ≤ 0x200a) || code == 0x2028 || code == 0x2029 || code == 0x202f
    || code == 0x205f || code == 0x3000

def trimStart (cs : List Char) : List Char := cs.dropWhile isBlank

def trimEnd (cs : List Char) : List Char := (trimStart cs.reverse).reverse

def trim (cs : List Char) : List Char := trimEnd (trimStart cs)

def trimText (text : String) : String := String.ofList (trim text.toList)

/-- Lower case of the ASCII letters; all other characters stay. -/
def lower (text : String) : String := text.map Char.toLower

end ImageVerification.Text
