import SchemaGen.Proofs.Source.Exchanges
import SchemaGen.Source.Reading

/-! # Attempts that are broken off

Only a cell that holds neither text nor null breaks an attempt off. So no server does, nor an export,
and a database only with such a cell in its table of collections (`breaking_of_aborted_read`): in a
column that is looked at, in the first row that is not read (`aborted_readTable_iff`).
-/

namespace SchemaGen.Source

set_option autoImplicit false

open SchemaGen.Schema SchemaGen.Web SchemaGen.Files

/-! ## Attempts that come to an end -/

namespace Attempt

variable {α β : Type}

/-- The attempt comes to an end of its own, good or bad. -/
def Ends (x : Attempt α) : Prop := x.result ≠ .error .aborted

theorem ends_of_ok {x : Attempt α} {a : α} (h : x.result = .ok a) : x.Ends := by
  rw [Ends, h]
  nofun

theorem ends_fail (e : SourceError) : (fail e : Attempt α).Ends := by
  rw [Ends, result_fail]
  nofun

theorem ends_ofExcept (x : Except SourceError α) : (ofExcept x).Ends := by
  rw [Ends, result_ofExcept]
  cases x <;> nofun

theorem aborted_bind_iff {x : Attempt α} {f : α → Attempt β} :
    (x >>= f).result = .error .aborted ↔
      x.result = .error .aborted ∨ ∃ a, x.result = .ok a ∧ (f a).result = .error .aborted := by
  rw [result_bind]
  exact bind_eq_error_iff

theorem Ends.bind {x : Attempt α} {f : α → Attempt β} (hx : x.Ends) (hf : ∀ a, (f a).Ends) :
    (x >>= f).Ends := by
  intro h
  rcases aborted_bind_iff.mp h with hx' | ⟨a, -, ha⟩
  · exact hx hx'
  · exact hf a ha

end Attempt

open Attempt

/-! ## Servers -/

namespace Remote

variable (server : Server) (base token : String)

theorem ends_exchange (request : Except HttpError Request) : (exchange server request).Ends := by
  refine (ends_ofExcept _).bind fun r => (ends_of_ok rfl).bind fun _ => ?_
  cases server r with
  | error cause => exact ends_fail _
  | ok response =>
    dsimp only
    split
    · exact ends_of_ok rfl
    · exact (ends_of_ok rfl).bind fun _ => ends_fail _

theorem ends_readPage (page : Nat) : (readPage server base token page).Ends :=
  (ends_exchange server _).bind fun _ => ends_ofExcept _

theorem ends_listFrom (page : Nat) : (listFrom server base token page).Ends := by
  fun_induction listFrom server base token page with
  | case1 page attempt ih =>
    refine (ends_readPage server base token page).bind fun data => ?_
    split
    · next hmore => exact (ih data hmore).bind fun _ => ends_of_ok rfl
    · exact ends_of_ok rfl

theorem ends_listCollections : (listCollections server base token).Ends :=
  (ends_listFrom server base token 1).bind fun _ => (ends_of_ok rfl).bind fun _ =>
    (ends_of_ok rfl).bind fun _ => ends_ofExcept _

theorem ends_signInAt (address email password : String) :
    (signInAt server address email password).Ends := by
  refine (ends_exchange server _).bind fun _ => (ends_ofExcept _).bind fun grant => ?_
  split
  · exact ends_fail _
  · exact ends_of_ok rfl

theorem ends_refusing {α : Type} {x : Attempt α} (h : x.Ends) : (refusing x).Ends := by
  unfold Ends refusing at *
  cases hx : x.result with
  | ok a => nofun
  | error stop =>
    cases stop with
    | failed e => nofun
    | aborted => exact absurd hx h

theorem ends_signIn (email password : String) : (signIn server base email password).Ends := by
  unfold signIn
  dsimp only
  split
  · exact ends_refusing (ends_signInAt server _ email password)
  · exact ends_refusing (ends_signInAt server _ email password)

end Remote

/-! ## Databases -/

namespace Database

/-- The cell holds text or nothing. -/
def holdsText : Cell → Bool
  | .null | .text _ | .bytes 0 => true
  | .number | .bytes _ => false

theorem aborted_cellText_iff {cell : Cell} :
    (cellText cell).result = .error .aborted ↔ holdsText cell = false := by
  cases cell with
  | null => exact ⟨nofun, nofun⟩
  | text s => exact ⟨nofun, nofun⟩
  | number => exact ⟨fun _ => rfl, fun _ => rfl⟩
  | bytes length =>
    cases length with
    | zero => exact ⟨nofun, nofun⟩
    | succ n => exact ⟨fun _ => rfl, fun _ => rfl⟩

theorem exists_cellText {cell : Cell} (h : holdsText cell = true) :
    ∃ text, (cellText cell).result = .ok text := by
  cases cell with
  | null => exact ⟨_, rfl⟩
  | text s => exact ⟨_, rfl⟩
  | number => cases h
  | bytes length =>
    cases length with
    | zero => exact ⟨_, rfl⟩
    | succ n => cases h

/-- What follows on a cell is reached unless the cell breaks off, whatever its text is. -/
theorem aborted_cellText_bind_iff {α : Type} {cell : Cell} {f : Option String → Attempt α}
    {p : Prop} (hf : ∀ text, (f text).result = .error .aborted ↔ p) :
    (cellText cell >>= f).result = .error .aborted ↔ holdsText cell = false ∨ p := by
  rw [aborted_bind_iff, aborted_cellText_iff]
  simp only [hf]
  cases hcell : holdsText cell with
  | false => simp
  | true =>
    obtain ⟨text, htext⟩ := exists_cellText hcell
    simp [htext]

/-! ### Columns that are looked at -/

/-- The places of the columns that are looked at in each row. -/
structure Selection where
  name : Nat
  kind : Option Nat
  fields : Nat
  deriving DecidableEq

namespace Selection

/-- The selection from a table with the given columns. There is none where the names or the field
lists have no column. -/
def of? (columns : List String) : Option Selection :=
  (Layout.of? columns).bind fun layout =>
    (columnOf columns "name").bind fun name =>
      (columnOf columns layout.fieldColumn).map (⟨name, columnOf columns "type", ·⟩)

/-- The cells of a row that are looked at. -/
def cells (s : Selection) (row : List Cell) : List Cell :=
  cellAt row s.name :: ((s.kind.map (cellAt row)).toList ++ [cellAt row s.fields])

def read (s : Selection) (row : List Cell) : Attempt Collection :=
  readRow s.name s.kind s.fields row

variable (s : Selection) (row : List Cell)

/-- All three cells are looked at before a failure can show, so the row breaks off by any of them. -/
theorem aborted_read_iff :
    (s.read row).result = .error .aborted ↔ ∃ cell ∈ s.cells row, holdsText cell = false := by
  have hend : ∀ (name kind fields : Option String),
      (ofExcept (fieldValue fields) >>= fun value => ofExcept
        ((Collection.ofJson (rowValue name kind value)).mapError .schema)).result =
          .error .aborted ↔ False := fun name kind fields =>
    ⟨(ends_ofExcept _).bind fun _ => ends_ofExcept _, False.elim⟩
  have hbase : holdsText (.text "base") = false ↔ False := ⟨nofun, nofun⟩
  rw [read, readRow, aborted_cellText_bind_iff fun name =>
    aborted_cellText_bind_iff fun kind => aborted_cellText_bind_iff fun fields =>
      hend name kind fields]
  cases hkind : s.kind with
  | none => simp [cells, hkind, hbase]
  | some column => simp [cells, hkind]

theorem mem_of_mem_cells {cell : Cell} (h : cell ∈ s.cells row) : cell ∈ row ∨ cell = .null := by
  have hat : ∀ column, cellAt row column ∈ row ∨ cellAt row column = .null := by
    intro column
    unfold cellAt
    cases hcell : row[column]? with
    | none => exact .inr rfl
    | some c => exact .inl (List.mem_of_getElem? hcell)
  rw [cells] at h
  cases hkind : s.kind with
  | none =>
    simp only [hkind, Option.map_none, Option.toList_none, List.nil_append, List.mem_cons,
      List.not_mem_nil, or_false] at h
    rcases h with rfl | rfl <;> exact hat _
  | some column =>
    simp only [hkind, Option.map_some, Option.toList_some, List.cons_append, List.nil_append,
      List.mem_cons, List.not_mem_nil, or_false] at h
    rcases h with rfl | rfl | rfl <;> exact hat _

end Selection

/-! ### Tables -/

/-- The first row that is not read has a cell, in a column that is looked at, that holds neither
text nor nothing. -/
def BreaksOff (columns : List String) (rows : List (List Cell)) : Prop :=
  ∃ s, Selection.of? columns = some s ∧ ∃ before row after, rows = before ++ row :: after ∧
    (∀ r ∈ before, ∃ c, (s.read r).result = .ok c) ∧ ∃ cell ∈ s.cells row, holdsText cell = false

theorem aborted_readTable_iff (table : Option Table) :
    (readTable table).result = .error .aborted ↔
      BreaksOff (collectionTable table).1 (collectionTable table).2 := by
  unfold readTable BreaksOff
  dsimp only
  generalize (collectionTable table).1 = columns
  generalize (collectionTable table).2 = rows
  cases hlayout : Layout.of? columns with
  | none => simp [Selection.of?, hlayout]
  | some layout =>
    dsimp only
    rw [result_bind_of_ok rfl]
    cases hname : columnOf columns "name" with
    | none => simp [Selection.of?, hlayout, hname]
    | some name =>
      cases hfields : columnOf columns layout.fieldColumn with
      | none => simp [Selection.of?, hlayout, hname, hfields]
      | some fields =>
        have hselection : Selection.of? columns =
            some ⟨name, columnOf columns "type", fields⟩ := by
          simp [Selection.of?, hlayout, hname, hfields]
        simp only [hselection, Option.some.injEq, exists_eq_left', ← Selection.aborted_read_iff]
        rw [result_mapM]
        exact mapM_eq_error_iff

/-- Some cell in the table of collections holds neither text nor nothing. -/
def Breaking (table : Option Table) : Prop :=
  ∃ row ∈ (collectionTable table).2, ∃ cell ∈ row, holdsText cell = false

theorem BreaksOff.breaking {t : Table} (hname : sameName t.name tableName = true)
    (h : BreaksOff t.columns t.rows) : Breaking (some t) := by
  obtain ⟨s, -, before, row, after, hrows, -, cell, hcell, hholds⟩ := h
  rcases s.mem_of_mem_cells row hcell with hmem | rfl
  · exact ⟨row, by simp [collectionTable, hname, hrows], cell, hmem, hholds⟩
  · cases hholds

/-! ### Files -/

theorem not_breaksOff_nil (rows : List (List Cell)) : ¬BreaksOff [] rows := by
  rintro ⟨s, hs, -⟩
  cases hs

theorem aborted_readContent_iff (content : Content) :
    (readContent content).result = .error .aborted ↔ ∃ t, content = .database (some t) ∧
      sameName t.name tableName = true ∧ BreaksOff t.columns t.rows := by
  have hempty : (readTable none).result ≠ .error .aborted := fun h =>
    not_breaksOff_nil [] ((aborted_readTable_iff none).mp h)
  have hother : ∀ content, (∀ table, content ≠ .database table) →
      (readContent content).result ≠ .error .aborted := by
    intro content hcontent
    unfold readContent
    split
    · exact absurd rfl (hcontent _)
    · split
      · exact hempty
      · exact ends_fail _
  cases content with
  | database table =>
    cases table with
    | none => simpa [readContent] using hempty
    | some t =>
      rw [readContent, aborted_readTable_iff, collectionTable]
      by_cases hname : sameName t.name tableName = true
      · simp [hname]
      · simpa [hname] using not_breaksOff_nil []
  | _ => simpa using hother _ (by simp)

theorem aborted_readPath_iff (tree : Tree) (cwd : Place) (path : String) :
    (readPath tree cwd path).result = .error .aborted ↔
      ∃ t, (locate path >>= contentAt tree cwd) = .ok (.database (some t)) ∧
        sameName t.name tableName = true ∧ BreaksOff t.columns t.rows := by
  unfold readPath
  cases hcontent : locate path >>= contentAt tree cwd with
  | error fault => simp
  | ok content => simp [aborted_readContent_iff]

end Database

/-! ## Sources -/

/-- Reading a database gives collections or an error unless its file holds a table of collections of
which the first row that is not read has a cell, in a column that is looked at, that holds neither
text nor nothing. Then, and only then, it is broken off. -/
theorem aborted_readDatabase_iff (tree : Tree) (cwd : Place) (path : String) :
    (readDatabase tree cwd path).result = .error .aborted ↔
      tree.isFile cwd path = true ∧
        ∃ t, (Database.locate path >>= Database.contentAt tree cwd) = .ok (.database (some t)) ∧
          Database.sameName t.name Database.tableName = true ∧
          Database.BreaksOff t.columns t.rows := by
  rw [readDatabase]
  cases tree.isFile cwd path with
  | false => simp
  | true => simpa using Database.aborted_readPath_iff tree cwd path

/-- A row for each column that is looked at, with a cell in it that holds neither text nor nothing. -/
def spoiledRows : List (List Cell) := [
  [.number, .text "base", .text "[]"],
  [.text "posts", .bytes 2, .text "[]"],
  [.text "posts", .null, .number]]

/-- Each of them breaks off, whether field lists have their name of today or the older one. -/
theorem not_read_ends :
    (∀ columns ∈ [["name", "type", "fields"], ["name", "type", "schema"]], ∀ row ∈ spoiledRows,
      (Database.readTable (some ⟨"_collections", columns, [row]⟩)).result = .error .aborted) ∧
    ¬∀ (tree : Tree) (cwd : Place) (path : String),
      (readDatabase tree cwd path).result ≠ .error .aborted := by
  have hselection : ∀ columns ∈ [["name", "type", "fields"], ["name", "type", "schema"]],
      Database.Selection.of? columns = some ⟨0, some 1, 2⟩ := by decide +kernel
  have hcells : ∀ row ∈ spoiledRows, ∃ cell ∈ (⟨0, some 1, 2⟩ : Database.Selection).cells row,
      Database.holdsText cell = false := by decide
  have hname : Database.sameName "_collections" Database.tableName = true := by decide +kernel
  have hbreaks : ∀ columns ∈ [["name", "type", "fields"], ["name", "type", "schema"]],
      ∀ row ∈ spoiledRows, ∀ after, Database.BreaksOff columns (row :: after) :=
    fun columns hcolumns row hrow after =>
      ⟨_, hselection columns hcolumns, [], row, after, rfl, by simp, hcells row hrow⟩
  refine ⟨fun columns hcolumns row hrow => ?_, fun h => ?_⟩
  · rw [Database.aborted_readTable_iff, Database.collectionTable, if_pos hname]
    exact hbreaks columns hcolumns row hrow []
  · let table : Table := ⟨"_collections", ["name", "type", "fields"], spoiledRows⟩
    have hfile : (⟨[(["a.db"], .file (.database (some table)))]⟩ : Tree).isFile [] "a.db" = true :=
      by decide +kernel
    refine h ⟨[(["a.db"], .file (.database (some table)))]⟩ [] "a.db" ?_
    rw [readDatabase, if_pos hfile, Database.aborted_readPath_iff]
    exact ⟨table, rfl, hname,
      hbreaks ["name", "type", "fields"] (by simp) _ (by simp [spoiledRows]) _⟩

/-- Reading a source is broken off only by a cell of a database. -/
theorem breaking_of_aborted_read {tree : Tree} {cwd : Place} {server : Server} {source : Source}
    (h : (Source.read tree cwd server source).result = .error .aborted) :
    ∃ path table, source = .database path ∧
      (Database.locate path >>= Database.contentAt tree cwd) = .ok (.database table) ∧
      Database.Breaking table := by
  rcases aborted_bind_iff.mp h with hnotice | ⟨_, -, h⟩
  · cases hnotice
  cases source with
  | database path =>
    dsimp only [readDatabase] at h
    split at h
    · obtain ⟨t, ht, hname, hbreaks⟩ := (Database.aborted_readPath_iff tree cwd path).mp h
      exact ⟨path, some t, rfl, ht, hbreaks.breaking hname⟩
    · cases h
  | exported path => exact absurd h (ends_ofExcept _)
  | token url granted => exact absurd h (Remote.ends_listCollections server _ granted)
  | password url email secret =>
    rcases aborted_bind_iff.mp h with hsignIn | ⟨granted, -, h⟩
    · exact absurd hsignIn (Remote.ends_signIn server _ email secret)
    · exact absurd h (Remote.ends_listCollections server _ granted)

end SchemaGen.Source
