import SchemaGen.Proofs.Json.Literal
import SchemaGen.Proofs.Naming
import SchemaGen.Zod.Document

/-! # Lines of a document

The texts between two line feeds of a document stand on one line each: names, validators, the lines
of fields and of the enumeration, and the note of origin. Only the name of a collection or of a
field and the source can bring in a line feed, so those are the texts to ask about.
-/

namespace SchemaGen.Time

set_option autoImplicit false

open SchemaGen.Text

/-! ## Stamps -/

/-- The characters of stamps. -/
def isStamp (c : Char) : Bool := c.isDigit || "+-.:TZ".toList.contains c

def OfStamp (text : String) : Prop := ∀ c ∈ text.toList, isStamp c = true

theorem OfStamp.append {a b : String} (ha : OfStamp a) (hb : OfStamp b) : OfStamp (a ++ b) := by
  unfold OfStamp
  rw [String.toList_append]
  exact List.forall_mem_append.mpr ⟨ha, hb⟩

theorem padded_ofStamp (width n : Nat) : OfStamp (padded width n) := by
  refine OfStamp.append ?_ ?_
  · intro c hc
    rw [String.toList_ofList] at hc
    rw [List.eq_of_mem_replicate hc]
    decide
  · intro c hc
    have hdigits : c ∈ Nat.toDigits 10 n := by simpa [Nat.repr] using hc
    rw [isStamp, Nat.isDigit_of_mem_toDigits (by decide) (by decide) hdigits, Bool.true_or]

theorem yearText_ofStamp (year : Int) : OfStamp (yearText year) := by
  unfold yearText
  split
  · exact padded_ofStamp 4 _
  · refine OfStamp.append ?_ (padded_ofStamp 4 _)
    split <;> simp [OfStamp, isStamp]

theorem stamp_ofStamp (t : Instant) : OfStamp t.stamp := by
  have hdash : OfStamp "-" := by simp [OfStamp, isStamp]
  have hcolon : OfStamp ":" := by simp [OfStamp, isStamp]
  have htime : OfStamp "T" := by simp [OfStamp, isStamp]
  have hpoint : OfStamp "." := by simp [OfStamp, isStamp]
  have hend : OfStamp "Z" := by simp [OfStamp, isStamp]
  have hdate := fun year month day => (((yearText_ofStamp year).append hdash).append
    (padded_ofStamp 2 month)).append hdash |>.append (padded_ofStamp 2 day)
  exact ((((((((hdate _ _ _).append htime).append (padded_ofStamp 2 _)).append hcolon).append
    (padded_ofStamp 2 _)).append hcolon).append (padded_ofStamp 2 _)).append hpoint).append
    (padded_ofStamp 3 _) |>.append hend

theorem stamp_oneLine (t : Instant) : OneLine t.stamp := fun h => nomatch stamp_ofStamp t '\n' h

end SchemaGen.Time

namespace SchemaGen.Zod

set_option autoImplicit false

open SchemaGen.Schema SchemaGen.Text

/-! ## Fields -/

theorem propertyKey_oneLine {name : String} (h : OneLine name) :
    OneLine (Naming.propertyKey name) := by
  have hquote : OneLine "\"" := by simp [OneLine]
  unfold Naming.propertyKey
  simp only
  split
  · exact (hquote.append h).append hquote
  · exact h

theorem Expr.several_oneLine (multi : Bool) {item : Expr} (h : OneLine item.render) :
    OneLine (Expr.several multi item).render := by
  have hopen : OneLine "z.array(" := by simp [OneLine]
  have hclose : OneLine ")" := by simp [OneLine]
  cases multi with
  | false => exact h
  | true => exact (hopen.append h).append hclose

/-- No alias brings in a line feed. -/
structure OneLineAliases (s : Settings) : Prop where
  recordId : OneLine s.recordIdAlias
  isoDate : OneLine s.isoDateAlias
  html : OneLine s.htmlAlias

theorem oneLineAliases_default : OneLineAliases {} := by constructor <;> simp [OneLine]

theorem validator_oneLine {s : Settings} (hs : OneLineAliases s) (collection : String) (f : Field) :
    OneLine (validator s collection f).render := by
  have hterm : OneLine (Expr.term "z.string()").render := by simp [OneLine, Expr.render]
  have hmember : OneLine (Expr.member (Naming.optionsName collection f.name)).render := by
    have hopen : OneLine "z.enum(" := by simp [OneLine]
    have hclose : OneLine ")" := by simp [OneLine]
    exact (hopen.append (Naming.optionsName_unbroken collection f.name).oneLine).append hclose
  have hrecord : OneLine (Expr.term s.recordIdAlias).render := hs.recordId
  unfold validator
  cases f.kind with
  | select => exact Expr.several_oneLine _ hmember
  | file => exact Expr.several_oneLine _ hterm
  | relation => exact Expr.several_oneLine _ hrecord
  | user => exact Expr.several_oneLine _ hrecord
  | date => exact hs.isoDate
  | autodate => exact hs.isoDate
  | editor => exact hs.html
  | _ => simp [OneLine, Expr.render]

/-- What stands behind the tab on the line of a field. -/
def fieldText (s : Settings) (collection : String) (f : Field) : String :=
  Naming.propertyKey f.name ++ ": " ++ (validator s collection f).render ++ optionalMarks f ++ ","

theorem fieldLine_eq (s : Settings) (collection : String) (f : Field) :
    fieldLine s collection f = "\t" ++ fieldText s collection f := by
  simp only [fieldLine, fieldText, String.append_assoc]

theorem fieldText_oneLine {s : Settings} (hs : OneLineAliases s) (collection : String) {f : Field}
    (h : OneLine f.name) : OneLine (fieldText s collection f) := by
  have hcolon : OneLine ": " := by simp [OneLine]
  have hcomma : OneLine "," := by simp [OneLine]
  have hmarks : OneLine (optionalMarks f) := by
    unfold optionalMarks
    repeat' split
    all_goals simp [OneLine]
  exact ((((propertyKey_oneLine h).append hcolon).append (validator_oneLine hs collection f)).append
    hmarks).append hcomma

end SchemaGen.Zod
