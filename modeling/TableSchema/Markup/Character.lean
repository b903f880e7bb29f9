/-!
# Characters of XML

Which characters may stand in a document and in names.
-/

namespace TableSchema.Markup

def isSpace (c : Char) : Bool :=
  c = ' ' || c = '\t' || c = '\n' || c = '\r'

def isAllowed (c : Char) : Bool :=
  if c.toNat < 32 then isSpace c else c.toNat ≠ 0xFFFE && c.toNat ≠ 0xFFFF

/-- Code points outside ASCII with which a name may start. -/
def nameStartRanges : List (Nat × Nat) :=
  [(0xC0, 0xD6), (0xD8, 0xF6), (0xF8, 0x2FF), (0x370, 0x37D), (0x37F, 0x1FFF), (0x200C, 0x200D),
    (0x2070, 0x218F), (0x2C00, 0x2FEF), (0x3001, 0xD7FF), (0xF900, 0xFDCF), (0xFDF0, 0xFFFD),
    (0x10000, 0xEFFFF)]

/-- Further code points outside ASCII with which a name may go on. -/
def namePartRanges : List (Nat × Nat) :=
  [(0xB7, 0xB7), (0x300, 0x36F), (0x203F, 0x2040)]

def within (ranges : List (Nat × Nat)) (c : Char) : Bool :=
  ranges.any fun range => range.1 ≤ c.toNat && c.toNat ≤ range.2

def isNameStart (c : Char) : Bool :=
  c.isAlpha || c = ':' || c = '_' || within nameStartRanges c

def isNamePart (c : Char) : Bool :=
  isNameStart c || c.isDigit || c = '-' || c = '.' || within namePartRanges c

end TableSchema.Markup
