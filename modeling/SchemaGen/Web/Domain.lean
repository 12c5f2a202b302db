import SchemaGen.Web.Domain.Direction
import SchemaGen.Web.Domain.Joining
import SchemaGen.Web.Domain.Mapping
import SchemaGen.Web.Punycode

/-! Names of hosts in ASCII. A name is a list of labels with points between them. A label that is
no ASCII is written as one that is, behind a mark, and a label behind that mark is read again to
see whether it stands for what it should. -/

namespace SchemaGen.Web.Domain

set_option autoImplicit false

open SchemaGen.Text

/-! ## Labels -/

/-- What labels start with that stand for others. -/
def aliasMark : List Char := "xn--".toList

def isAscii (cs : List Char) : Bool := cs.all (·.toNat < 0x80)

/-- The label that another stands for. It is no ASCII, and in its normal form already. -/
def unalias? (label : List Char) : Option (List Char) :=
  if aliasMark.isPrefixOf label then do
    let meant ← Punycode.decode? (label.drop aliasMark.length)
    if isAscii meant || normalize? meant != some meant then none else some meant
  else some label

/-- A label in ASCII. -/
def inAscii (label : List Char) : List Char :=
  if isAscii label then label else aliasMark ++ Punycode.encode label

/-- The most characters of a label that is no ASCII. -/
def longestForeign : Nat := 1000

/-- A label starts with no mark, and joiners stand where they may. -/
def isLabel (label : List Char) : Bool :=
  !(label.head?.any isMark) && joinersHold [] label &&
    (isAscii label || label.length ≤ longestForeign)

/-! ## Names -/

/-- The labels of a name in their normal form. -/
def labels? (name : List Char) : Option (List (List Char)) := do
  let labels ← (pieces (· == '.') (← normalize? name)).mapM unalias?
  if !labels.all isLabel then none
  else if isBidirectional labels && !labels.all isDirected then none
  else some labels

/-- A name in ASCII. -/
def toAscii? (name : List Char) : Option (List Char) :=
  (labels? name).map fun labels => joinWith '.' (labels.map inAscii)

end SchemaGen.Web.Domain
