/-!
# The numbers of tags and attributes

Debugging information names the kind of an entry and of each attribute by number.  Only the
numbers that change how an image is read or searched are listed.
-/

namespace ObjectView.Debug

/-- The kind of an entry. -/
abbrev Tag := Nat

namespace Tag

def formalParameter : Tag := 0x05
def lexicalBlock : Tag := 0x0b
def pointerType : Tag := 0x0f
def inlinedSubroutine : Tag := 0x1d
def constType : Tag := 0x26
def subprogram : Tag := 0x2e
def variableDecl : Tag := 0x34
def namespaceDecl : Tag := 0x39

/-- Entries that declare something with a type. -/
def isDeclaration (t : Tag) : Bool :=
  t = variableDecl || t = formalParameter

/-- Entries that open a scope, which covers the instructions in their ranges. -/
def isScope (t : Tag) : Bool :=
  t = subprogram || t = inlinedSubroutine || t = lexicalBlock

end Tag

/-- The kind of an attribute. -/
abbrev AttributeName := Nat

namespace AttributeName

def sibling : AttributeName := 0x01
def location : AttributeName := 0x02
def name : AttributeName := 0x03
def lineTable : AttributeName := 0x10
def lowAddress : AttributeName := 0x11
def highAddress : AttributeName := 0x12
def textLength : AttributeName := 0x19
def returnAddress : AttributeName := 0x2a
def startScope : AttributeName := 0x2c
def memberLocation : AttributeName := 0x38
def frameBase : AttributeName := 0x40
def macroInfo : AttributeName := 0x43
def segment : AttributeName := 0x46
def staticLink : AttributeName := 0x48
def type : AttributeName := 0x49
def useLocation : AttributeName := 0x4a
def tableLocation : AttributeName := 0x4d
def ranges : AttributeName := 0x55
def textOffsetsBase : AttributeName := 0x72
def addressBase : AttributeName := 0x73
def rangeListsBase : AttributeName := 0x74
def macroTable : AttributeName := 0x79
def rangesBaseExtension : AttributeName := 0x2132
def addressBaseExtension : AttributeName := 0x2133

/-- Attributes that may hold an offset into another section.  A plain number of the size of an
offset is one there. -/
def holdsOffset (name : AttributeName) (version : Nat) : Bool :=
  [location, lineTable, textLength, returnAddress, startScope, frameBase, macroInfo, macroTable,
    segment, staticLink, useLocation, tableLocation, ranges].contains name ||
  (name = memberLocation && version ≤ 3)

end AttributeName

end ObjectView.Debug
