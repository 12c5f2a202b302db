import SchemaGen.Proofs.Zod.Assembly
import SchemaGen.Proofs.Zod.Lines

/-! # The note of origin

A document with a note of its origin is the document without one behind a header of two comments
(`generate_some`). The time cannot end its line, but the source can be any text, and what follows
its first line is in no comment of its own (`silent_header_iff`).
-/

namespace SchemaGen.Zod

set_option autoImplicit false

open SchemaGen.Schema SchemaGen.Text

/-! ## Lines -/

/-- How a text is cut into lines: at line feeds, or as a script is, where three other characters
end a line too. -/
inductive LineRule where
  | text
  | script

def LineRule.ends : LineRule → Char → Bool
  | .text, c => c == '\n'
  | .script, c => c == '\n' || c == '\r' || c == '\u2028' || c == '\u2029'

def LineRule.lines (rule : LineRule) (text : String) : List (List Char) :=
  pieces rule.ends text.toList

/-- A line that is empty or a comment. -/
def Silent (line : List Char) : Prop := line = [] ∨ ['/', '/'] <+: line

instance (line : List Char) : Decidable (Silent line) := inferInstanceAs (Decidable (_ ∨ _))

namespace LineRule

theorem ends_feed (rule : LineRule) : rule.ends '\n' = true := by cases rule <;> rfl

theorem ends_of_isStamp {c : Char} (h : Time.isStamp c = true) (rule : LineRule) :
    rule.ends c = false := by
  rw [Bool.eq_false_iff]
  intro hends
  cases rule with
  | text =>
    obtain rfl : c = '\n' := by simpa [ends] using hends
    cases h
  | script =>
    have hbreak : c = '\n' ∨ c = '\r' ∨ c = '\u2028' ∨ c = '\u2029' := by
      simpa [ends, or_assoc] using hends
    rcases hbreak with rfl | rfl | rfl | rfl <;> cases h

theorem lines_append (rule : LineRule) (a b : String) :
    rule.lines (a ++ "\n" ++ b) = rule.lines a ++ rule.lines b :=
  pieces_append_feed rule.ends_feed a b

end LineRule

/-! ## The header -/

/-- What stands before the document proper. -/
def Provenance.header (p : Provenance) : String :=
  p.sourceComment ++ "\n\n" ++ p.timeComment ++ "\n\n"

/-- Behind the start of a comment, all lines but the first are on their own. -/
theorem silent_comment_iff (rule : LineRule) {start : String}
    (h : start.toList.all (fun c => !rule.ends c) = true) (hstart : ['/', '/'] <+: start.toList)
    (text : String) : (∀ line ∈ rule.lines (start ++ text), Silent line) ↔
      ∀ line ∈ (rule.lines text).tail, Silent line := by
  obtain ⟨first, rest, htext⟩ := List.exists_cons_of_ne_nil (pieces_ne_nil rule.ends text.toList)
  have hopen : ∀ c ∈ start.toList, rule.ends c = false := by simpa using h
  have hfirst : Silent (start.toList ++ first) := .inr (hstart.trans (List.prefix_append ..))
  rw [LineRule.lines, LineRule.lines, String.toList_append, pieces_append_of_all hopen, htext,
    List.modifyHead_cons, List.forall_mem_cons, List.tail_cons]
  exact and_iff_right hfirst

/-- The lines of the header are silent exactly if those of the source behind its first are. -/
theorem silent_header_iff (rule : LineRule) (p : Provenance) :
    (∀ line ∈ rule.lines p.header, Silent line) ↔
      ∀ line ∈ (rule.lines p.source).tail, Silent line := by
  have hempty : ∀ line ∈ rule.lines "", Silent line := by
    intro line hline
    obtain rfl := List.mem_singleton.mp hline
    exact .inl rfl
  have hsource : (∀ line ∈ rule.lines p.sourceComment, Silent line) ↔
      ∀ line ∈ (rule.lines p.source).tail, Silent line := by
    have hstart : "// Generated from: ".toList.all (fun c => !rule.ends c) = true := by
      cases rule <;> decide
    exact silent_comment_iff rule hstart (by decide) p.source
  have htime : ∀ line ∈ rule.lines p.timeComment, Silent line := by
    have hstart : "// Generated at: ".toList.all (fun c => !rule.ends c) = true := by
      cases rule <;> decide
    have hstamp : rule.lines p.time.stamp = [p.time.stamp.toList] :=
      pieces_of_all fun c hc => rule.ends_of_isStamp (Time.stamp_ofStamp _ c hc)
    refine (silent_comment_iff rule hstart (by decide) _).mpr ?_
    rw [hstamp]
    exact List.forall_mem_nil _
  have hheader : p.header = p.sourceComment ++ "\n" ++
      ("" ++ "\n" ++ (p.timeComment ++ "\n" ++ ("" ++ "\n" ++ ""))) := by
    rw [← append_paragraph, ← append_paragraph, Provenance.header, String.append_empty]
    simp only [String.append_assoc]
  rw [hheader]
  simp only [LineRule.lines_append, List.forall_mem_append]
  exact ⟨fun h => hsource.mp h.1, fun h => ⟨hsource.mpr h, hempty, htime, hempty, hempty⟩⟩

/-! ## The rest of the document -/

theorem assemble_append (notes : List String) {part : String} (h : part ≠ "")
    (before after : List String) : assemble (notes ++ (before ++ part :: after)) =
      String.join (notes.map above) ++ assemble (before ++ part :: after) := by
  rw [← List.append_assoc, assemble_cons h, assemble_cons h, List.map_append, String.join_append]
  simp only [String.append_assoc]

theorem join_provenanceParts (p : Provenance) :
    String.join ((provenanceParts (some p)).map above) = p.header := by
  have hsource : p.sourceComment ≠ "" := fun h =>
    absurd (String.append_eq_empty_iff.mp h).1 (by decide)
  have htime : p.timeComment ≠ "" := fun h =>
    absurd (String.append_eq_empty_iff.mp h).1 (by decide)
  simp only [provenanceParts, List.map_cons, List.map_nil, above, if_neg hsource, if_neg htime,
    String.join_cons, String.join_nil, String.append_empty, Provenance.header, String.append_assoc]

/-- The document without a note follows the header. -/
theorem document_some (s : Settings) (collections : List Collection) (p : Provenance) :
    (generate s collections (some p)).document =
      p.header ++ (generate s collections none).document := by
  have hparts : ∀ p, (generate s collections p).document = assemble (provenanceParts p ++
      ([s.header, s.imports] ++ enumeration s.enumName (sortedNames collections) ::
        ([s.aliasComment, s.aliasDefinitions, s.baseSystemFields, s.authSystemFields,
          s.schemasComment] ++ blockTexts s (sortByName collections)))) := by
    intro p
    rw [← map_renderAll_blocks]
    simp only [generate, preamble, List.append_assoc, List.cons_append, List.nil_append]
  rw [hparts, hparts, assemble_append _ (enumeration_ne_empty _ _), join_provenanceParts]
  rfl

/-- A note of origin adds a header to the document and changes nothing else. The lines of the header
are empty or comments exactly if this is so for the lines of the source behind its first, whether
lines end as in a text or as in a script. -/
theorem generate_some (s : Settings) (collections : List Collection) (p : Provenance) :
    generate s collections (some p) = { generate s collections none with
      document := p.header ++ (generate s collections none).document } ∧
    ∀ rule : LineRule, (∀ line ∈ rule.lines p.header, Silent line) ↔
      ∀ line ∈ (rule.lines p.source).tail, Silent line := by
  refine ⟨?_, fun rule => silent_header_iff rule p⟩
  rw [← document_some]
  rfl

/-- A line feed in the source ends the comment. -/
theorem not_generate_some : ¬∀ (s : Settings) (collections : List Collection) (p : Provenance),
    ∃ header, (generate s collections (some p)).document =
      header ++ (generate s collections none).document ∧
        ∀ line ∈ LineRule.text.lines header, Silent line := by
  intro h
  let p : Provenance := ⟨"a\nb", ⟨0, 0⟩⟩
  obtain ⟨header, hdocument, hsilent⟩ := h {} [] p
  have hheader : header = p.header := by
    rw [document_some, ← String.toList_inj, String.toList_append,
      String.toList_append] at hdocument
    exact String.toList_inj.mp (List.append_cancel_right hdocument).symm
  rw [hheader, silent_header_iff] at hsilent
  exact absurd hsilent (by decide)

end SchemaGen.Zod
