import TagWeave.Text.CodePoints

/-!
# Names in markup

Elements, attributes and classes share one grammar of names.
-/

namespace TagWeave

/-- What a name may begin with. -/
def nameStarts : Text.Ranges :=
  [(0x61, 0x7A), (0x41, 0x5A), (0x5F, 0x5F), (0x3A, 0x3A), (0xC0, 0xD6), (0xD8, 0xF6),
    (0xF8, 0x2FF), (0x370, 0x37D), (0x37F, 0x1FFF), (0x200C, 0x200D), (0x2070, 0x218F),
    (0x2C00, 0x2FEF), (0x3001, 0xD7FF), (0xF900, 0xFDCF), (0xFDF0, 0xFFFD), (0x10000, 0xEFFFF)]

/-- What may stand in a name, but not first: hyphen, point, digits and some marks. -/
def nameContinues : Text.Ranges :=
  [(0x2D, 0x2D), (0x2E, 0x2E), (0x30, 0x39), (0xB7, 0xB7), (0x300, 0x36F), (0x203F, 0x2040)]

def isNameStart (c : Char) : Bool := nameStarts.contains c

def isNameChar (c : Char) : Bool := isNameStart c || nameContinues.contains c

/-- A name is not empty, and its first character may begin one. -/
def isName (text : String) : Bool :=
  match text.toList with
  | [] => false
  | c :: rest => isNameStart c && rest.all isNameChar

/-- The elements that have no content and no closing tag. -/
def voidElements : List String :=
  ["area", "base", "br", "col", "embed", "hr", "img", "input", "link", "meta", "param", "source",
    "track", "wbr"]

def isVoidElement (tag : String) : Bool :=
  voidElements.contains (.ofList (tag.toList.map Char.toLower))

end TagWeave
