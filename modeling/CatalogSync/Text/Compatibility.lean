namespace CatalogSync.Text

-- The code points whose compatibility form holds a solidus, a question mark, a number sign, an at
-- sign or a colon, those five themselves excepted.
def foldedDelimiters : List Nat :=
  [0x2047, 0x2048, 0x2049, 0x2100, 0x2101, 0x2105, 0x2106, 0x2a74, 0xfe13, 0xfe16, 0xfe55, 0xfe56,
   0xfe5f, 0xfe6b, 0xff03, 0xff0f, 0xff1a, 0xff1f, 0xff20]

def foldsIntoDelimiter (c : Char) : Bool := foldedDelimiters.contains c.toNat

end CatalogSync.Text
