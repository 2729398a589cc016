import CatalogSync.Text.Ranges

namespace CatalogSync.Text

-- The white space characters: the ASCII ones with the four separators before the space, the
-- next-line character and the spaces of Unicode.
def blankRanges : Ranges :=
  [(0x9, 0xd), (0x1c, 0x20), (0x85, 0x85), (0xa0, 0xa0), (0x1680, 0x1680), (0x2000, 0x200a),
   (0x2028, 0x2029), (0x202f, 0x202f), (0x205f, 0x205f), (0x3000, 0x3000)]

def isBlank (c : Char) : Bool := blankRanges.holds c.toNat

-- Cuts the characters of a set off both ends.
def trimWhere (p : Char → Bool) (cs : List Char) : List Char :=
  ((cs.dropWhile p).reverse.dropWhile p).reverse

def trim (s : String) : String := .ofList (trimWhere isBlank s.toList)

def trimSlashes (s : String) : String := .ofList (trimWhere (· = '/') s.toList)

end CatalogSync.Text
