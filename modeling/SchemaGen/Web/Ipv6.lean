import SchemaGen.Web.Ipv4

/-! Hosts of eight groups of two bytes. A group is written in hexadecimal, with a colon to the next
one; two colons stand for one or more groups of zeros, and the last two groups may be written as
four bytes. -/

namespace SchemaGen.Web.Ipv6

set_option autoImplicit false

open SchemaGen.Text

/-! ## Reading -/

/-- One group. -/
def group? (cs : List Char) : Option Nat :=
  if cs.isEmpty || 4 < cs.length then none else hexNumber? cs

/-- The groups of the last part: one, or the two that four bytes fill. -/
def lastGroups? (cs : List Char) : Option (List Nat) :=
  if cs.contains '.' then (Ipv4.strict? cs).map fun n => [n / 0x10000, n % 0x10000]
  else (group? cs).map fun n => [n]

/-- Groups with colons between them, if there are any. Only those at the end of a host may be
written as bytes. -/
def groups? (atEnd : Bool) (cs : List Char) : Option (List Nat) :=
  if cs.isEmpty then some []
  else
    let parts := pieces (· == ':') cs
    if atEnd then do
      return (← parts.dropLast.mapM group?) ++ (← lastGroups? (parts.getLast?.getD []))
    else parts.mapM group?

/-- What stands before and behind the first two colons in a row. -/
def splitDouble : List Char → Option (List Char × List Char)
  | ':' :: ':' :: rest => some ([], rest)
  | c :: rest => (splitDouble rest).map fun (before, after) => (c :: before, after)
  | [] => none

/-- The eight groups of a host. -/
def parse? (cs : List Char) : Option (List Nat) :=
  match splitDouble cs with
  | some (before, after) => do
    let head ← groups? false before
    let tail ← groups? true after
    if 8 ≤ head.length + tail.length then none
    else some (head ++ List.replicate (8 - head.length - tail.length) 0 ++ tail)
  | none => (groups? true cs).filter (·.length = 8)

/-! ## Writing -/

/-- How many zeros groups start with. -/
def zerosAhead (groups : List Nat) : Nat := (groups.takeWhile (· == 0)).length

/-- The place and the length of the longest run of zeros, of equal ones the first. -/
def longestZeros (groups : List Nat) : Nat × Nat :=
  (List.range groups.length).foldl (fun best place =>
    let length := zerosAhead (groups.drop place)
    if best.2 < length then (place, length) else best) (0, 0)

def renderGroups (groups : List Nat) : String :=
  ":".intercalate (groups.map fun n => String.ofList (hexDigits n))

/-- The groups with colons between them; two colons stand for the longest run of at least two zeros.
-/
def render (groups : List Nat) : String :=
  let (place, length) := longestZeros groups
  if length < 2 then renderGroups groups
  else renderGroups (groups.take place) ++ "::" ++ renderGroups (groups.drop (place + length))

end SchemaGen.Web.Ipv6
