import Mathlib.Data.List.Forall2
import Mathlib.Data.Option.Defs
import SchemaGen.Proofs.Schema.Readings
import SchemaGen.Proofs.StableSort
import SchemaGen.Zod.Document

/-! # Older and current shapes of a field

A field carries its members and its cap itself, or in an options record. Generation looks at both
only through `members`, `isMulti` and the question whether the cap is one. So it cannot tell a field
from its settled form, in which members stand directly and a cap of zero is none, and all shapes of
one field settle to the same form (`generate_settled`, `Field.Reshaped.settled_eq`). For collections
read from JSON the same holds of the key that holds the field list (`ofJson_congr`).
-/

namespace SchemaGen.Schema

set_option autoImplicit false

/-! ## Shapes of a field -/

/-- A field as it is, or with members and cap written in one of the two places. -/
inductive Field.Reshaped (f : Field) : Field → Prop where
  | same : Reshaped f f
  | direct : Reshaped f f.direct
  | legacy : Reshaped f f.legacy

/-- A collection in which each field, on its own, may have changed its shape. -/
structure Collection.Reshaped (c d : Collection) : Prop where
  name : d.name = c.name
  kind : d.kind = c.kind
  fields : Option.Rel (List.Forall₂ Field.Reshaped) c.fields d.fields

/-! ## The settled form -/

namespace Field

/-- Members and cap written directly, a cap of zero left out. -/
def settled (f : Field) : Field :=
  { f with values := some f.members, maxSelect := f.cap.filter (· != 0), options := none }

@[simp] theorem settled_name (f : Field) : f.settled.name = f.name := rfl

@[simp] theorem settled_kind (f : Field) : f.settled.kind = f.kind := rfl

@[simp] theorem settled_required (f : Field) : f.settled.required = f.required := rfl

theorem members_of_direct {f : Field} {vs : List String} (hv : f.values = some vs)
    (ho : f.options = none) : f.members = vs := by
  cases vs <;> simp [members, hv, ho]

theorem cap_of_direct {f : Field} (ho : f.options = none) :
    f.cap = f.maxSelect.filter (· != 0) := by
  unfold cap
  rw [ho]
  cases f.maxSelect.filter (· != 0) <;> rfl

@[simp] theorem settled_members (f : Field) : f.settled.members = f.members :=
  members_of_direct rfl rfl

theorem settled_cap (f : Field) : f.settled.cap = f.cap.filter (· != 0) := by
  rw [cap_of_direct rfl]
  simp [settled, Option.filter_filter]

@[simp] theorem settled_isMulti (f : Field) : f.settled.isMulti = f.isMulti := by
  unfold isMulti
  rw [settled_cap]
  cases f.cap with
  | none => rfl
  | some n =>
    by_cases h : n = 0
    · subst h
      rfl
    · simp [Option.filter, h]

@[simp] theorem settled_cap_ne_one (f : Field) : (f.settled.cap != some 1) = (f.cap != some 1) := by
  rw [settled_cap]
  cases f.cap with
  | none => rfl
  | some n =>
    by_cases h : n = 0
    · subst h
      rfl
    · simp [Option.filter, h]

theorem direct_settled (f : Field) : f.direct.settled = f.settled := by
  have hm : f.direct.members = f.members := members_of_direct rfl rfl
  have hc : f.direct.cap = f.cap.filter (· != 0) := cap_of_direct rfl
  unfold settled
  rw [hm, hc, Option.filter_filter]
  simp [direct]

theorem legacy_settled (f : Field) : f.legacy.settled = f.settled := rfl

theorem Reshaped.settled_eq {f g : Field} (h : Reshaped f g) : g.settled = f.settled := by
  cases h with
  | same => rfl
  | direct => exact direct_settled f
  | legacy => exact legacy_settled f

end Field

/-- All fields settled. -/
def Collection.settled (c : Collection) : Collection :=
  { c with fields := c.fields.map (·.map Field.settled) }

theorem map_settled_eq {fs gs : List Field} (h : List.Forall₂ Field.Reshaped fs gs) :
    gs.map Field.settled = fs.map Field.settled := by
  induction h with
  | nil => rfl
  | cons hfg _ ih => rw [List.map_cons, List.map_cons, hfg.settled_eq, ih]

theorem Collection.Reshaped.settled_eq {c d : Collection} (h : c.Reshaped d) :
    d.settled = c.settled := by
  obtain ⟨name, kind, fields⟩ := c
  obtain ⟨name', kind', fields'⟩ := d
  obtain ⟨rfl, rfl, hf⟩ := h
  cases hf with
  | none => rfl
  | some hfs => simp only [Collection.settled, Option.map_some, map_settled_eq hfs]

end SchemaGen.Schema

namespace SchemaGen.Zod

set_option autoImplicit false

open SchemaGen.Schema SchemaGen.StableSort

/-! ## Generation sees settled fields -/

theorem validator_settled (s : Settings) (collection : String) (f : Field) :
    validator s collection f.settled = validator s collection f := by
  simp [validator]

theorem fieldLine_settled (s : Settings) (collection : String) (f : Field) :
    fieldLine s collection f.settled = fieldLine s collection f := by
  unfold fieldLine
  rw [validator_settled]
  rfl

theorem hasOptions_settled (f : Field) : hasOptions f.settled = hasOptions f := by
  unfold hasOptions
  rw [Field.settled_members]
  rfl

theorem optionsOf_settled (collection : String) (f : Field) :
    optionsOf collection f.settled = optionsOf collection f := by
  simp [optionsOf]

theorem optionDeclarations_settled (collection : String) (fields : List Field) :
    optionDeclarations collection (fields.map Field.settled) =
      optionDeclarations collection fields := by
  unfold optionDeclarations
  rw [List.filter_map, List.map_map]
  have hp : hasOptions ∘ Field.settled = hasOptions := funext hasOptions_settled
  have hf : optionsOf collection ∘ Field.settled = optionsOf collection :=
    funext (optionsOf_settled collection)
  rw [hp, hf]

theorem recordLines_settled (s : Settings) (collection : String) (fields : List Field) :
    recordLines s collection (fields.map Field.settled) = recordLines s collection fields := by
  unfold recordLines
  rw [List.map_map]
  have hf : fieldLine s collection ∘ Field.settled = fieldLine s collection :=
    funext (fieldLine_settled s collection)
  rw [hf]

theorem duplicateWarnings_settled (collection : String) (seen : List String)
    (fields : List Field) :
    duplicateWarnings collection seen (fields.map Field.settled) =
      duplicateWarnings collection seen fields := by
  induction fields generalizing seen with
  | nil => rfl
  | cons f rest ih => simp only [List.map_cons, duplicateWarnings, Field.settled_name, ih]

theorem kindWarnings_settled (collection : String) (fields : List Field) :
    (fields.map Field.settled).filterMap (kindWarning? collection) =
      fields.filterMap (kindWarning? collection) := by
  rw [List.filterMap_map]
  rfl

theorem declarations_settled (s : Settings) (collection : String) (kind : CollectionKind)
    (fields : List Field) :
    declarations s collection kind (fields.map Field.settled) =
      declarations s collection kind fields := by
  unfold declarations
  rw [optionDeclarations_settled, recordLines_settled]

theorem settled_wellFormed (c : Collection) : c.settled.wellFormed = c.wellFormed := by
  simp [Collection.wellFormed, Collection.settled]

theorem settled_fields (c : Collection) :
    c.settled.fields.getD [] = (c.fields.getD []).map Field.settled := by
  simp only [Collection.settled]
  cases c.fields <;> rfl

theorem block?_settled (s : Settings) (c : Collection) : block? s c.settled = block? s c := by
  unfold block?
  rw [settled_wellFormed, settled_fields, declarations_settled]
  rfl

theorem blockWarnings_settled (c : Collection) : blockWarnings c.settled = blockWarnings c := by
  unfold blockWarnings
  simp only [settled_wellFormed, settled_fields, duplicateWarnings_settled, kindWarnings_settled]
  rfl

/-- A change of collections that keeps names, blocks and warnings is not seen in the document. -/
theorem generate_map {f : Collection → Collection} (s : Settings)
    (hname : ∀ c, (f c).name = c.name) (hblock : ∀ c, block? s (f c) = block? s c)
    (hwarn : ∀ c, blockWarnings (f c) = blockWarnings c) (l : List Collection)
    (p : Option Provenance) :
    (generate s (l.map f) p).document = (generate s l p).document ∧
      (generate s (l.map f) p).warnings = (generate s l p).warnings := by
  have hsort : sortByName (l.map f) = (sortByName l).map f :=
    (map_sort Collection.name f hname l).symm
  have hnames : sortedNames (l.map f) = sortedNames l := by
    have h : (·.name) ∘ f = Collection.name := funext hname
    simp only [sortedNames, List.map_map, h]
  have hblocks : blocks s (sortByName (l.map f)) = blocks s (sortByName l) := by
    have h : block? s ∘ f = block? s := funext hblock
    rw [hsort, blocks, List.filterMap_map, h, blocks]
  have hwarnings : (sortByName (l.map f)).flatMap blockWarnings =
      (sortByName l).flatMap blockWarnings := by
    simp only [hsort, List.flatMap_map, hwarn]
  constructor
  · simp only [generate, hnames, hblocks]
  · exact hwarnings

theorem generate_settled (s : Settings) (l : List Collection) (p : Option Provenance) :
    (generate s (l.map Collection.settled) p).document = (generate s l p).document ∧
      (generate s (l.map Collection.settled) p).warnings = (generate s l p).warnings :=
  generate_map (f := Collection.settled) s (fun _ => rfl) (block?_settled s)
    blockWarnings_settled l p

theorem map_collection_settled_eq {l m : List Collection}
    (h : List.Forall₂ Collection.Reshaped l m) :
    m.map Collection.settled = l.map Collection.settled := by
  induction h with
  | nil => rfl
  | cons hcd _ ih => rw [List.map_cons, List.map_cons, hcd.settled_eq, ih]

/-- Fields in their older and in their current shape give the same document and the same warnings,
and a collection is read alike from an object that holds its field list under either key. -/
theorem generate_eq_of_reshaped :
    (∀ (s : Settings) (p : Option Provenance) (l m : List Collection),
      List.Forall₂ Collection.Reshaped l m →
      (generate s m p).document = (generate s l p).document ∧
        (generate s m p).warnings = (generate s l p).warnings) ∧
    (∀ (v : Json) (a b : List (String × Json)), v.isNull = false →
      (Json.object a).get? "fields" = some v →
      (Json.object b).get? "schema" = some v →
      ((Json.object b).get? "fields" = none ∨ (Json.object b).get? "fields" = some .null) →
      (∀ key, key ≠ "fields" → key ≠ "schema" →
        (Json.object a).get? key = (Json.object b).get? key) →
      Collection.ofJson (.object a) = Collection.ofJson (.object b)) := by
  constructor
  · intro s p l m h
    obtain ⟨hdl, hwl⟩ := generate_settled s l p
    obtain ⟨hdm, hwm⟩ := generate_settled s m p
    rw [← hdl, ← hwl, ← hdm, ← hwm, map_collection_settled_eq h]
    exact ⟨rfl, rfl⟩
  · intro v a b hv ha hb hnull hrest
    apply ofJson_congr
    · rw [fieldListOf_fields hv ha, fieldListOf_schema hv hnull hb]
    · exact hrest "name" (by decide) (by decide)
    · exact hrest "type" (by decide) (by decide)

/-- A choice of several roles. -/
def roleField : Field :=
  { name := "role", kind := .select, values := some ["reader", "writer"], maxSelect := some 2 }

/-- A relation in the older shape, without a cap. -/
def teamField : Field :=
  { name := "team", kind := .relation, options := some { maxSelect := some 0 } }

/-- Users with the given fields. -/
def usersWith (fields : List Field) : Collection :=
  { name := "users", kind := .auth, fields := some fields }

theorem generate_users :
    List.Forall₂ Collection.Reshaped [usersWith [roleField, teamField]]
        [usersWith [roleField.legacy, teamField.direct]] ∧
      (generate {} [usersWith [roleField.legacy, teamField.direct]] none).document =
        (generate {} [usersWith [roleField, teamField]] none).document ∧
      Collection.ofJson (.object [("fields", .array []), ("name", .string "users")]) =
        Collection.ofJson (.object [("fields", .null), ("name", .string "users"),
          ("schema", .array [])]) := by
  obtain ⟨hgenerate, hread⟩ := generate_eq_of_reshaped
  have hfields : List.Forall₂ Field.Reshaped [roleField, teamField]
      [roleField.legacy, teamField.direct] := .cons .legacy (.cons .direct .nil)
  have husers : Collection.Reshaped (usersWith [roleField, teamField])
      (usersWith [roleField.legacy, teamField.direct]) := ⟨rfl, rfl, .some hfields⟩
  have hcollections := List.Forall₂.cons husers .nil
  refine ⟨hcollections, (hgenerate {} none _ _ hcollections).1, ?_⟩
  refine hread (.array []) _ _ rfl rfl rfl (.inr rfl) ?_
  intro key hfield hschema
  simp only [Json.get?, List.lookup_cons, beq_false_of_ne hfield, beq_false_of_ne hschema,
    List.lookup_nil]

end SchemaGen.Zod
