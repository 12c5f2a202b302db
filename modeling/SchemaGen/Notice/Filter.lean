import SchemaGen.Notice
import SchemaGen.Notice.Pattern
import SchemaGen.Text.Alphanumeric
import SchemaGen.Text.Blank
import SchemaGen.Text.Pieces

/-! Which notices are told. A rule admits notices up to a level: all of them, those of the parts of
the program whose name starts with a text, or those that have a part of a given name. Of the rules
that a notice falls under, the most special one holds. -/

namespace SchemaGen.Notice

set_option autoImplicit false

open SchemaGen.Text

/-! ## Rules -/

/-- The notices of some parts up to a level, or none of them. -/
structure Rule where
  target : Option String := none
  /-- The name of a part that the notices have. -/
  part : Option String := none
  level : Option Level := some .trace
  deriving DecidableEq, Repr

namespace Rule

/-- The notice falls under the rule. -/
def covers (r : Rule) (n : Notice) : Bool :=
  (r.target.all fun t => t.toList.isPrefixOf n.target.toList) && r.part.all n.partNames.contains

/-- Greater for rules of fewer notices: first those with the longer target, then those that ask for
a part. -/
def weight (r : Rule) : Nat :=
  r.target.elim 0 (fun t => 2 * t.utf8ByteSize + 2) + r.part.elim 0 fun _ => 1

/-- The rule holds before another that covers the same notices. Of two that ask for a part, the name
of it decides. -/
def precedes (r other : Rule) : Bool :=
  other.weight < r.weight || (other.weight = r.weight && !(r.part.getD "" < other.part.getD ""))

end Rule

/-- Rules, of which a later one replaces an earlier one for the same notices. -/
abbrev Filter := List Rule

namespace Filter

/-- The rule that holds for a notice. -/
def ruleFor (filter : Filter) (n : Notice) : Option Rule :=
  (filter.filter (·.covers n)).foldl (fun best r =>
    match best with
    | none => some r
    | some b => if r.precedes b then some r else some b) none

/-- The notice is told. -/
def admits (filter : Filter) (n : Notice) : Bool :=
  match (filter.ruleFor n).bind (·.level) with
  | some level => n.level.rank ≤ level.rank
  | none => false

/-- All parts up to one level. -/
def upTo (level : Level) : Filter := [{ level := some level }]

end Filter

/-! ## Reading -/

/-- A rule as it is written. One that names a scope, or a value of a part, is about what is under
way and not about notices. -/
structure Directive where
  rule : Rule
  isForNotices : Bool := true

namespace Directive

/-- A level by its name in either case, or by its number. -/
def level? (text : String) : Option (Option Level) :=
  let digits := if text.toList.head? == some '+' then text.toList.drop 1 else text.toList
  let number := digits.foldl (fun n c => n * 10 + (c.toNat - '0'.toNat)) 0
  if !digits.isEmpty && digits.all Char.isDigit then
    [(0, none), (1, some Level.error), (2, some .warn), (3, some .info), (4, some .debug),
      (5, some .trace)].lookup number
  else
    [("off", none), ("error", some Level.error), ("warn", some .warn), ("info", some .info),
      ("debug", some .debug), ("trace", some .trace)].lookup (text.map Char.toLower)

/-- A level behind a sign of equality. Nothing there means all levels. -/
def givenLevel? (text : String) : Option (Option Level) :=
  if text = "" then some (some .trace) else level? text

def isTargetStart (c : Char) : Bool := isAlphanumeric c || c == '-' || c == ':' || c == '_'

/-- A sign and what stands in its place. -/
abbrev Sign := Char × Char

def content (signs : List Sign) : String := String.ofList (signs.map (·.2))

/-- Parts signs at the first of some. -/
def splitAt (p : Char → Bool) (signs : List Sign) : List Sign × List Sign :=
  signs.span fun s => !p s.1

/-- A rule with the level that its last signs give. -/
def withLevel? (d : Directive) (signs : List Sign) (tail : List Char) : Option Directive :=
  match signs with
  | [] => some d
  | ('=', _) :: rest =>
    (givenLevel? (content rest ++ String.ofList tail)).map fun level =>
      { d with rule := { d.rule with level } }
  | _ => none

/-- A part of notices, and maybe its value. -/
def withPart? (d : Directive) (text : String) : Option Directive :=
  match cutAt (· == '=') text.toList with
  | ([], none) => none
  | (name, value) =>
    if (value.map (·.takeWhile (· != '='))).all Pattern.isValue then
      some { rule := { d.rule with part := some (String.ofList name) }
             isForNotices := d.isForNotices && value.isNone }
    else none

/-- What follows the bracket behind a target: a scope, and in braces a part of notices. -/
def afterBracket? (d : Directive) (signs : List Sign) (tail : List Char) : Option Directive :=
  match splitAt (fun c => c == ']' || c == '\x7b') signs with
  | (_, (']', _) :: rest) => withLevel? { d with isForNotices := false } rest tail
  | (scope, ('\x7b', _) :: rest) =>
    match splitAt (· == '\x7d') rest with
    | (part, _ :: (']', _) :: rest) => do
      let d ← withPart? { d with isForNotices := scope.isEmpty } (content part)
      withLevel? d rest tail
    | _ => none
  | _ => none

/-- A directive from its signs. Blanks around it are no signs, but what is taken is counted from
where its text starts, and goes on to where that ends. -/
def parse? (text : List Char) : Option Directive :=
  let shape := trimBy isBlank text
  let signs := shape.zip text
  let tail := text.drop shape.length
  let (head, rest) := splitAt (fun c => c == '=' || c == '[') signs
  if !(head.head?.all fun s => isTargetStart s.1) then none
  else
    let target := if head.isEmpty then none else some (content head)
    match rest with
    | [] =>
      if head.isEmpty then none
      else
        let word := content head ++ String.ofList tail
        some { rule := match level? word with
          | some level => { level }
          | none => { target := some word } }
    | ('[', _) :: rest => afterBracket? { rule := { target } } rest tail
    | rest => if head.isEmpty then none else withLevel? { rule := { target } } rest tail

end Directive

/-- Rules with commas between them, empty ones left out. Without any, errors are told. -/
def Filter.parse? (text : String) : Option Filter := do
  let parts := (pieces (· == ',') text.toList).filter (· != [])
  let directives ← parts.mapM Directive.parse?
  if directives.isEmpty then return .upTo .error
  else return (directives.filter (·.isForNotices)).map (·.rule)

end SchemaGen.Notice
