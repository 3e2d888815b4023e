/-
# Host names

A host name is a sequence of labels with dots between them.  It is brought into one form, in
which every character stands for all its variants, and then written in ASCII: a label with other
characters is given by its Punycode after `xn--`.  A label that is already so written must give a
label in that form.
-/

import SupportDesk.Host.Direction
import SupportDesk.Host.Joiner
import SupportDesk.Host.Mapping
import SupportDesk.Host.Punycode
import SupportDesk.Text.Composed
import SupportDesk.Text.Mark

namespace SupportDesk.Host.Name

/-- What stands in front of the Punycode of a label. -/
def punycodeMark : List Char := "xn--".toList

/-- Whether a text is ASCII. -/
def isAscii (cs : List Char) : Bool := cs.all fun c => c.toNat < 0x80

/-- The parts of a host name between dots. -/
def labels (cs : List Char) : List (List Char) :=
  ((String.ofList cs).splitOn ".").map String.toList

/-- Whether a character may not stand in a host name in ASCII. -/
def isForbidden (c : Char) : Bool :=
  c.toNat ≤ 0x20 || 0x7E < c.toNat || "#/:<>?@[\\]^|%".toList.contains c

/-- Whether a label may stand in a host name: it does not begin with a mark, and joiners stand
where they show. -/
def isProper (label : List Char) : Bool :=
  !(label.head?.map Mark.isMark).getD false && Joiner.allFit [] label

/-- Whether a label that Punycode gave is one that had to be written so: in the one form, and
not ASCII. -/
def isDecoded (label : List Char) : Bool :=
  !isAscii label && label.all Mapping.isPlain && Composed.chars label = label

/-- A label in ASCII and in full. -/
structure Label where
  ascii : List Char
  full : List Char
deriving Repr

/-- The label that a part of a host name in its one form gives. -/
def label? (part : List Char) : Option Label :=
  if punycodeMark.isPrefixOf part then
    match Punycode.decode? (part.drop punycodeMark.length) with
    | some full => if isDecoded full && isProper full then some ⟨part, full⟩ else none
    | none => none
  else if isAscii part then some ⟨part, part⟩
  else if isProper part then some ⟨punycodeMark ++ Punycode.encode part, part⟩
  else none

/-- The ASCII form of a host name, if it is one. -/
def ascii? (name : List Char) : Option (List Char) := do
  let labels ← (labels (Composed.chars (← Mapping.chars? name))).mapM label?
  let rightward := labels.any fun l => l.full.any Direction.isRightward
  let ascii := ['.'].intercalate (labels.map Label.ascii)
  if (rightward && !labels.all fun l => Direction.agrees l.full) || ascii.any isForbidden then none
  else some ascii

end SupportDesk.Host.Name
