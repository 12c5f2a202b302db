import SchemaGen.Zod.Block
import SchemaGen.Time.Stamp

/-! A whole module: an optional note of its origin, the fixed texts, the enumeration of collection
names, and one block for each collection, in the order of their names. -/

namespace SchemaGen.Zod

set_option autoImplicit false

open SchemaGen.Schema

/-- Where the collections came from, and when. -/
structure Provenance where
  source : String
  time : Time.Instant
  deriving DecidableEq, Repr

def Provenance.sourceComment (p : Provenance) : String := "// Generated from: " ++ p.source

def Provenance.timeComment (p : Provenance) : String := "// Generated at: " ++ p.time.stamp

/-! ## Enumeration -/

/-- The line of one collection in the enumeration. -/
def enumLine (name : String) : String :=
  "\t" ++ Naming.identifier name ++ " = \"" ++ name ++ "\","

/-- The enumeration of collection names. -/
def enumeration (enumName : String) (names : List String) : String :=
  "export enum " ++ enumName ++ " \x7b\n" ++ "\n".intercalate (names.map enumLine) ++ "\n\x7d"

/-! ## Order -/

/-- The non-empty names in ascending order. -/
def sortedNames (collections : List Collection) : List String :=
  ((collections.map (·.name)).filter (· != "")).mergeSort fun a b => decide (a ≤ b)

/-- The collections by ascending name, those of one name in their order. -/
def sortByName (collections : List Collection) : List Collection :=
  collections.mergeSort fun a b => decide (a.name ≤ b.name)

/-! ## Documents -/

/-- The note of origin. -/
def provenanceParts : Option Provenance → List String
  | some p => [p.sourceComment, p.timeComment]
  | none => []

/-- The parts that stand before the blocks. -/
def preamble (s : Settings) (names : List String) : List String := [
  s.header, s.imports, enumeration s.enumName names, s.aliasComment, s.aliasDefinitions,
  s.baseSystemFields, s.authSystemFields, s.schemasComment]

/-- The blocks of the collections that have one. -/
def blocks (s : Settings) (collections : List Collection) : List (List Declaration) :=
  collections.filterMap (block? s)

/-- The parts that are not empty, with an empty line between them. -/
def assemble (parts : List String) : String :=
  "\n\n".intercalate (parts.filter (· != "")) ++ "\n"

/-- What generation gives. -/
structure Generated where
  document : String
  /-- The collections in the order of the document. -/
  order : List Collection
  /-- How many of them have a block. -/
  rendered : Nat
  warnings : List Warning
  deriving DecidableEq, Repr

/-- The module of a list of collections. -/
def generate (s : Settings) (collections : List Collection) (provenance : Option Provenance) :
    Generated :=
  let order := sortByName collections
  let rendered := blocks s order
  { document := assemble (provenanceParts provenance ++ preamble s (sortedNames collections) ++
      rendered.map renderAll)
    order
    rendered := rendered.length
    warnings := order.flatMap blockWarnings }

end SchemaGen.Zod
