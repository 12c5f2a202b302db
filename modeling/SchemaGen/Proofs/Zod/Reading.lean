import SchemaGen.Proofs.Zod.Exports
import SchemaGen.Proofs.Zod.Lines

/-! # Names read off a document

An export stands at the start of a line: a keyword, its name, a blank. The members of the
enumeration stand on lines of their own, from the line that opens it up to the brace that closes it.
Read in this way, a document gives back the names that went into it (`declaredValues_eq`,
`declaredTypes_eq`, `declaredMembers_eq`), as long as no name and no source brings in a line feed.
-/

namespace SchemaGen.Zod

set_option autoImplicit false

open SchemaGen.Schema SchemaGen.Text

/-! ## Reading -/

/-- The name behind a keyword at the start of a line, up to the first blank. -/
def nameAfter (keyword : String) (line : List Char) : Option String :=
  if keyword.toList.isPrefixOf line then
    some (String.ofList ((line.drop keyword.toList.length).takeWhile (· != ' ')))
  else none

/-- The keyword of a type or of a value. -/
def keyword (isType : Bool) : String := if isType then "export type " else "export const "

/-- The type or the value that a line exports. An enumeration is both. -/
def exported (isType : Bool) (line : List Char) : Option String :=
  (nameAfter "export enum " line).or (nameAfter (keyword isType) line)

/-- The values that a document exports. -/
def declaredValues (document : String) : List String := collect (exported false) document

/-- The types that a document exports. -/
def declaredTypes (document : String) : List String := collect (exported true) document

/-- The lines between the one that opens the enumeration and the one that closes it. -/
def enumBody (document : String) : List (List Char) :=
  ((lines document).dropWhile fun line => (nameAfter "export enum " line).isNone).tail.takeWhile
    fun line => (nameAfter "\x7d" line).isNone

/-- The members of the enumeration of a document. -/
def declaredMembers (document : String) : List String :=
  (enumBody document).filterMap (nameAfter "\t")

/-! ## Single lines -/

/-- Neither text starts with the other. -/
def Apart (a b : String) : Prop := ¬ a.toList <+: b.toList ∧ ¬ b.toList <+: a.toList

instance (a b : String) : Decidable (Apart a b) := inferInstanceAs (Decidable (_ ∧ _))

theorem bne_of_noBlank {name : String} (h : ' ' ∉ name.toList) :
    ∀ c ∈ name.toList, (c != ' ') = true := by
  intro c hc
  rw [bne_iff_ne]
  rintro rfl
  exact h hc

theorem nameAfter_append (start rest : String) {name : String} (h : ' ' ∉ name.toList) :
    nameAfter start (start ++ name ++ " " ++ rest).toList = some name := by
  have hline : (start ++ name ++ " " ++ rest).toList =
      start.toList ++ (name.toList ++ ' ' :: rest.toList) := by simp
  rw [hline, nameAfter, if_pos (by simp), List.drop_left,
    List.takeWhile_append_of_pos (bne_of_noBlank h), List.takeWhile_cons_of_neg (by simp),
    List.append_nil, String.ofList_toList]

theorem nameAfter_of_apart {a b : String} (h : Apart a b) (rest : String) :
    nameAfter a (b ++ rest).toList = none := by
  rw [nameAfter, if_neg]
  rw [List.isPrefixOf_iff_prefix, String.toList_append]
  intro ha
  rcases List.prefix_or_prefix_of_prefix ha (List.prefix_append b.toList rest.toList) with hab | hba
  · exact h.1 hab
  · exact h.2 hba

theorem exported_of_apart {start : String} (henum : Apart "export enum " start)
    (hkey : ∀ t, Apart (keyword t) start) (t : Bool) (rest : String) :
    exported t (start ++ rest).toList = none := by
  rw [exported, nameAfter_of_apart henum, nameAfter_of_apart (hkey t)]
  rfl

theorem exported_nil (t : Bool) : exported t [] = none := by
  cases t <;> decide +kernel

theorem exported_enum (t : Bool) (rest : String) {name : String} (h : ' ' ∉ name.toList) :
    exported t ("export enum " ++ name ++ " " ++ rest).toList = some name := by
  rw [exported, nameAfter_append _ _ h]
  rfl

theorem apart_keyword : ∀ t u : Bool, u ≠ t → Apart (keyword t) (keyword u) := by decide

theorem exported_keyword (t u : Bool) (rest : String) {name : String} (h : ' ' ∉ name.toList) :
    exported t (keyword u ++ name ++ " " ++ rest).toList = if u = t then some name else none := by
  have henum : Apart "export enum " (keyword u) := by revert u; decide
  have hnone : nameAfter "export enum " (keyword u ++ name ++ " " ++ rest).toList = none := by
    simpa only [String.append_assoc] using nameAfter_of_apart henum (name ++ (" " ++ rest))
  rw [exported, hnone, Option.none_or]
  by_cases hut : u = t
  · rw [if_pos hut, hut, nameAfter_append _ _ h]
  · rw [if_neg hut]
    simpa only [String.append_assoc] using
      nameAfter_of_apart (apart_keyword t u hut) (name ++ (" " ++ rest))

/-! ## Single lines as texts -/

theorem collect_keyword (t u : Bool) {name rest : String} (hn : Unbroken name)
    (hr : OneLine rest) :
    collect (exported t) (keyword u ++ name ++ " " ++ rest) = if u = t then [name] else [] := by
  have hkey : OneLine (keyword u) := by cases u <;> simp [OneLine, keyword]
  have hline := ((hkey.append hn.oneLine).append (b := " ") (by simp [OneLine])).append hr
  rw [hline.collect_eq, exported_keyword t u rest hn.noBlank]
  split <;> rfl

theorem collect_apart {start rest : String} (henum : Apart "export enum " start)
    (hkey : ∀ t, Apart (keyword t) start) (t : Bool) (h : OneLine (start ++ rest)) :
    collect (exported t) (start ++ rest) = [] :=
  h.collect_of_none (exported_of_apart henum hkey t rest)

theorem collect_tab (t : Bool) {rest : String} (h : OneLine rest) :
    collect (exported t) ("\t" ++ rest) = [] :=
  collect_apart (by decide) (by decide) t (OneLine.append (by simp [OneLine]) h)

theorem collect_brace (t : Bool) {rest : String} (h : OneLine rest) :
    collect (exported t) ("\x7d" ++ rest) = [] :=
  collect_apart (by decide) (by decide) t (OneLine.append (by simp [OneLine]) h)

/-! ## Fixed texts -/

theorem aliasDefinitions_eq (s : Settings) : s.aliasDefinitions =
    "" ++ "\n" ++ (keyword false ++ s.recordIdAlias ++ " " ++ "= z.string().length(15)") ++
      "\n" ++ (keyword false ++ s.isoDateAlias ++ " " ++ "= z.string().datetime()") ++
      "\n" ++ (keyword false ++ s.htmlAlias ++ " " ++ "= z.string()") := by
  unfold Settings.aliasDefinitions
  exact String.ext (by simp [keyword])

theorem baseSystemFields_eq (s : Settings) : s.baseSystemFields =
    (keyword false ++ s.baseSystemSchema ++ " " ++ "= z.object(\x7b") ++ "\n" ++
      ("\t" ++ ("id: " ++ s.recordIdAlias ++ ",")) ++ "\n" ++
      ("\t" ++ "collectionId: z.string(),") ++ "\n" ++
      ("\t" ++ "collectionName: z.string(),") ++ "\n" ++
      ("\t" ++ ("created: " ++ s.isoDateAlias ++ ",")) ++ "\n" ++
      ("\t" ++ ("updated: " ++ s.isoDateAlias ++ ",")) ++ "\n" ++
      ("\t" ++ "expand: z.record(z.any()).optional(),") ++ "\n" ++ ("\x7d" ++ ")") := by
  unfold Settings.baseSystemFields
  exact String.ext (by simp [keyword])

theorem authSystemFields_eq (s : Settings) : s.authSystemFields =
    (keyword false ++ s.authSystemSchema ++ " " ++
      ("= " ++ s.baseSystemSchema ++ ".merge(z.object(\x7b")) ++ "\n" ++
      ("\t" ++ "email: z.string().email(),") ++ "\n" ++
      ("\t" ++ "emailVisibility: z.boolean(),") ++ "\n" ++
      ("\t" ++ "username: z.string(),") ++ "\n" ++
      ("\t" ++ "verified: z.boolean(),") ++ "\n" ++ ("\x7d" ++ "))") := by
  unfold Settings.authSystemFields
  exact String.ext (by simp [keyword])

theorem collect_aliasDefinitions (t : Bool) {s : Settings} (hrecord : Unbroken s.recordIdAlias)
    (hdate : Unbroken s.isoDateAlias) (hhtml : Unbroken s.htmlAlias) :
    collect (exported t) s.aliasDefinitions =
      if t then [] else [s.recordIdAlias, s.isoDateAlias, s.htmlAlias] := by
  rw [aliasDefinitions_eq, collect_append, collect_append, collect_append,
    collect_empty (exported_nil t), collect_keyword t false hrecord (by simp [OneLine]),
    collect_keyword t false hdate (by simp [OneLine]),
    collect_keyword t false hhtml (by simp [OneLine])]
  cases t <;> rfl

theorem collect_baseSystemFields (t : Bool) {s : Settings} (hbase : Unbroken s.baseSystemSchema)
    (hrecord : OneLine s.recordIdAlias) (hdate : OneLine s.isoDateAlias) :
    collect (exported t) s.baseSystemFields = if t then [] else [s.baseSystemSchema] := by
  have hcomma : OneLine "," := by simp [OneLine]
  have hid := ((OneLine.append (a := "id: ") (by simp [OneLine]) hrecord).append hcomma)
  have hcreated := ((OneLine.append (a := "created: ") (by simp [OneLine]) hdate).append hcomma)
  have hupdated := ((OneLine.append (a := "updated: ") (by simp [OneLine]) hdate).append hcomma)
  rw [baseSystemFields_eq, collect_append, collect_append, collect_append, collect_append,
    collect_append, collect_append, collect_append,
    collect_keyword t false hbase (by simp [OneLine]), collect_tab t hid,
    collect_tab t (by simp [OneLine]), collect_tab t (by simp [OneLine]), collect_tab t hcreated,
    collect_tab t hupdated, collect_tab t (by simp [OneLine]), collect_brace t (by simp [OneLine])]
  cases t <;> rfl

theorem collect_authSystemFields (t : Bool) {s : Settings} (hauth : Unbroken s.authSystemSchema)
    (hbase : OneLine s.baseSystemSchema) :
    collect (exported t) s.authSystemFields = if t then [] else [s.authSystemSchema] := by
  have hrest := ((OneLine.append (a := "= ") (by simp [OneLine]) hbase).append
    (b := ".merge(z.object(\x7b") (by simp [OneLine]))
  rw [authSystemFields_eq, collect_append, collect_append, collect_append, collect_append,
    collect_append, collect_keyword t false hauth hrest, collect_tab t (by simp [OneLine]),
    collect_tab t (by simp [OneLine]), collect_tab t (by simp [OneLine]),
    collect_tab t (by simp [OneLine]), collect_brace t (by simp [OneLine])]
  cases t <;> rfl

/-! ## Declarations -/

/-- Names are read up to a blank, and what stands on one line does so. -/
def Declaration.Plain : Declaration → Prop
  | .options name _ => Unbroken name
  | .object name lines =>
    Unbroken name ∧ ∀ line ∈ lines, ∃ rest, OneLine rest ∧ line = "\t" ++ rest
  | .merged name base extension => Unbroken name ∧ OneLine base ∧ OneLine extension
  | .inferred name schema => Unbroken name ∧ OneLine schema

theorem render_options (name : String) (members : List String) :
    (Declaration.options name members).render = keyword false ++ name ++ " " ++
      ("= " ++ (Json.ofTexts members).compact ++ " as const;") := by
  have htext : ∀ text : String, "export const " ++ name ++ " = " ++ text ++ " as const;" =
      keyword false ++ name ++ " " ++ ("= " ++ text ++ " as const;") :=
    fun text => String.ext (by simp [keyword])
  exact htext _

theorem render_object (name : String) (lines : List String) :
    (Declaration.object name lines).render = keyword false ++ name ++ " " ++ "= z.object(\x7b" ++
      "\n" ++ ("\n".intercalate lines ++ "\n" ++ ("\x7d" ++ ");")) := by
  have htext : ∀ text : String,
      "export const " ++ name ++ " = z.object(\x7b\n" ++ text ++ "\n\x7d);" =
        keyword false ++ name ++ " " ++ "= z.object(\x7b" ++ "\n" ++
          (text ++ "\n" ++ ("\x7d" ++ ");")) :=
    fun text => String.ext (by simp [keyword])
  exact htext _

theorem render_merged (name base extension : String) :
    (Declaration.merged name base extension).render = keyword false ++ name ++ " " ++
      ("= " ++ base ++ ".merge(" ++ extension ++ ");") := by
  unfold Declaration.render
  exact String.ext (by simp [keyword])

theorem render_inferred (name schema : String) :
    (Declaration.inferred name schema).render = keyword true ++ name ++ " " ++
      ("= z.infer<typeof " ++ schema ++ ">;") := by
  unfold Declaration.render
  exact String.ext (by simp [keyword])

/-- What is read off a declaration is its name, under the keyword of its role. -/
theorem collect_render (t : Bool) {d : Declaration} (h : d.Plain) :
    collect (exported t) d.render = if d.isType = t then [d.name] else [] := by
  cases d with
  | options name members =>
    have hrest : OneLine ("= " ++ (Json.ofTexts members).compact ++ " as const;") :=
      (OneLine.append (by simp [OneLine]) (Json.ofTexts_oneLine members)).append
        (by simp [OneLine])
    rw [render_options, collect_keyword t false h hrest]
    rfl
  | object name lines =>
    have hbody : lines.flatMap (collect (exported t)) = [] := by
      rw [List.flatMap_eq_nil_iff]
      intro line hline
      obtain ⟨rest, hrest, rfl⟩ := h.2 line hline
      exact collect_tab t hrest
    rw [render_object, collect_append, collect_append, collect_intercalate (exported_nil t), hbody,
      collect_brace t (by simp [OneLine]), collect_keyword t false h.1 (by simp [OneLine]),
      List.append_nil, List.append_nil]
    rfl
  | merged name base extension =>
    have hrest : OneLine ("= " ++ base ++ ".merge(" ++ extension ++ ");") :=
      (((OneLine.append (by simp [OneLine]) h.2.1).append (by simp [OneLine])).append
        h.2.2).append (by simp [OneLine])
    rw [render_merged, collect_keyword t false h.1 hrest]
    rfl
  | inferred name schema =>
    have hrest : OneLine ("= z.infer<typeof " ++ schema ++ ">;") :=
      (OneLine.append (by simp [OneLine]) h.2).append (by simp [OneLine])
    rw [render_inferred, collect_keyword t true h.1 hrest]
    rfl

/-! ## Blocks -/

theorem declarations_plain (collection : String) (kind : CollectionKind) {fields : List Field}
    (h : ∀ f ∈ fields, OneLine f.name) :
    ∀ d ∈ declarations {} collection kind fields, d.Plain := by
  have htitle := Naming.identifier_unbroken collection
  have hrecord := htitle.append (b := "RecordSchema") ⟨by simp [OneLine], by decide⟩
  have hresponse := htitle.append (b := "ResponseSchema") ⟨by simp [OneLine], by decide⟩
  have hsystem : OneLine (({} : Settings).systemSchema kind) := by
    cases kind <;> simp [OneLine, Settings.systemSchema]
  intro d hd
  rw [declarations] at hd
  rcases List.mem_append.mp hd with hd | hd
  · obtain ⟨f, _, rfl⟩ := List.mem_map.mp hd
    exact Naming.optionsName_unbroken collection f.name
  · simp only [List.mem_cons, List.not_mem_nil, or_false] at hd
    rcases hd with rfl | rfl | rfl | rfl
    · refine ⟨hrecord, fun line hline => ?_⟩
      obtain ⟨f, hf, rfl⟩ := List.mem_map.mp (List.mem_mergeSort.mp hline)
      exact ⟨_, fieldText_oneLine oneLineAliases_default collection (h f hf),
        fieldLine_eq {} collection f⟩
    · exact ⟨hresponse, hrecord.oneLine, hsystem⟩
    · exact ⟨htitle.append ⟨by simp [OneLine], by decide⟩, hrecord.oneLine⟩
    · exact ⟨htitle.append ⟨by simp [OneLine], by decide⟩, hresponse.oneLine⟩

/-- What is read off a block are its names. -/
theorem collect_renderAll (t : Bool) {ds : List Declaration} (h : ∀ d ∈ ds, d.Plain) :
    collect (exported t) (renderAll ds) = (ds.filter (·.isType == t)).map (·.name) := by
  rw [renderAll, collect_paragraphs (exported_nil t)]
  induction ds with
  | nil => rfl
  | cons d ds ih =>
    rw [List.map_cons, List.flatMap_cons, collect_render t (h d (List.mem_cons_self ..)),
      ih fun e he => h e (List.mem_cons_of_mem d he), List.filter_cons]
    by_cases hd : d.isType = t <;> simp [hd]

/-! ## Enumeration -/

theorem enumeration_eq (enumName : String) (names : List String) :
    enumeration enumName names = "export enum " ++ enumName ++ " " ++ "\x7b" ++ "\n" ++
      ("\n".intercalate (names.map enumLine) ++ "\n" ++ "\x7d") := by
  have htext : ∀ text : String, "export enum " ++ enumName ++ " \x7b\n" ++ text ++ "\n\x7d" =
      "export enum " ++ enumName ++ " " ++ "\x7b" ++ "\n" ++ (text ++ "\n" ++ "\x7d") :=
    fun text => String.ext (by simp)
  exact htext _

theorem enumHead_oneLine {enumName : String} (h : Unbroken enumName) :
    OneLine ("export enum " ++ enumName ++ " " ++ "\x7b") :=
  ((OneLine.append (by simp [OneLine]) h.oneLine).append (by simp [OneLine])).append
    (by simp [OneLine])

theorem enumLine_eq (name : String) :
    enumLine name = "\t" ++ Naming.identifier name ++ " " ++ ("= \"" ++ name ++ "\",") := by
  have htext : ∀ text : String, "\t" ++ text ++ " = \"" ++ name ++ "\"," =
      "\t" ++ text ++ " " ++ ("= \"" ++ name ++ "\",") :=
    fun text => String.ext (by simp)
  exact htext _

theorem enumLine_oneLine {name : String} (h : OneLine name) : OneLine (enumLine name) := by
  rw [enumLine_eq]
  have hkey := (OneLine.append (a := "\t") (by simp [OneLine])
    (Naming.identifier_unbroken name).oneLine).append (b := " ") (by simp [OneLine])
  exact hkey.append ((OneLine.append (by simp [OneLine]) h).append (by simp [OneLine]))

theorem collect_enumeration (t : Bool) {enumName : String} (henum : Unbroken enumName)
    {names : List String} (h : ∀ n ∈ names, OneLine n) :
    collect (exported t) (enumeration enumName names) = [enumName] := by
  have hbody : (names.map enumLine).flatMap (collect (exported t)) = [] := by
    rw [List.flatMap_eq_nil_iff]
    intro line hline
    obtain ⟨n, hn, rfl⟩ := List.mem_map.mp hline
    apply (enumLine_oneLine (h n hn)).collect_of_none
    rw [enumLine_eq, String.append_assoc, String.append_assoc]
    exact exported_of_apart (by decide) (by decide) t _
  have hclose : collect (exported t) ("\x7d" ++ "") = [] := collect_brace t (by simp [OneLine])
  rw [String.append_empty] at hclose
  rw [enumeration_eq, collect_append, collect_append, collect_intercalate (exported_nil t), hbody,
    (enumHead_oneLine henum).collect_eq, exported_enum t _ henum.noBlank,
    hclose]
  rfl

end SchemaGen.Zod
