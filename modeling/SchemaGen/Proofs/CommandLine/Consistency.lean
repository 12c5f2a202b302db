import SchemaGen.CommandLine.Reader
import SchemaGen.Proofs.Traversal
import Mathlib.Data.List.Nodup

/-! # Command lines and sets of options

Options are consistent if they can be asked for together (`Options.Consistent`). Written with names
and signs of equality they are read back in any order: one argument gives one option
(`Reader.step_argument`), and a list of them gives all of its options
(`Reader.foldlM_arguments`). Whatever else is read, no step gives an empty path
(`Reader.noEmptyPath_of_step`), and what excludes each other is refused at the end. So command lines
denote the consistent options and no others (`read_iff_consistent`).
-/

namespace SchemaGen.CommandLine

set_option autoImplicit false

open SchemaGen.Text

/-! ## Options and their items -/

/-- No path is empty. -/
def Options.NoEmptyPath (o : Options) : Prop :=
  ∀ v, v.isPath = true → o.value? v ≠ some ""

/-- Options that can be asked for together: at most one source, not both quiet and verbose, and no
empty path. -/
structure Options.Consistent (o : Options) : Prop where
  source : ([Valued.db, .json, .url].filter fun v => (o.value? v).isSome).length ≤ 1
  loudness : ¬(o.isSet .quiet = true ∧ o.isSet .verbose = true)
  paths : o.NoEmptyPath

/-- One option that is given. -/
inductive Item where
  | value (v : Valued) (text : String)
  | flag (f : Flag)
  deriving DecidableEq

namespace Item

/-- An option as an argument: its name, and its value behind a sign of equality. -/
def argument : Item → String
  | .value v text => "--" ++ v.name ++ "=" ++ text
  | .flag f => "--" ++ f.name

/-- The option is one of those given. -/
def In (o : Options) : Item → Prop
  | .value v text => o.value? v = some text
  | .flag f => o.isSet f = true

/-- The option is not given, with any value. -/
def Free (o : Options) : Item → Prop
  | .value v _ => o.value? v = none
  | .flag f => o.isSet f = false

/-- The option is no empty path. -/
def Fit : Item → Prop
  | .value v text => v.isPath = true → text ≠ ""
  | .flag _ => True

def give (o : Options) : Item → Options
  | .value v text => o.setValue v text
  | .flag f => o.setFlag f

end Item

/-- The options that are given, each once. -/
def Options.items (o : Options) : List Item :=
  Valued.all.filterMap (fun v => (o.value? v).map (Item.value v)) ++
    (Flag.all.filter o.isSet).map Item.flag

theorem Options.mem_items_iff {o : Options} {i : Item} : i ∈ o.items ↔ i.In o := by
  have hvalued : ∀ v, v ∈ Valued.all := fun v => by cases v <;> decide
  have hflag : ∀ f, f ∈ Flag.all := fun f => by cases f <;> decide
  cases i with
  | value v text => simp [items, Item.In, hvalued]
  | flag f => simp [items, Item.In, hflag]

theorem Options.nodup_items (o : Options) : o.items.Nodup := by
  refine List.Nodup.append ?_ ?_ ?_
  · refine List.Nodup.filterMap ?_ (by decide)
    intro v w i hv hw
    obtain ⟨text, -, rfl⟩ := Option.map_eq_some_iff.mp (Option.mem_def.mp hv)
    obtain ⟨text', -, hsame⟩ := Option.map_eq_some_iff.mp (Option.mem_def.mp hw)
    exact (Item.value.inj hsame).1.symm
  · refine List.Nodup.map (fun f g h => Item.flag.inj h) (List.Nodup.filter _ (by decide))
  · intro i hi hi'
    obtain ⟨v, -, hv⟩ := List.mem_filterMap.mp hi
    obtain ⟨text, -, rfl⟩ := Option.map_eq_some_iff.mp hv
    obtain ⟨f, -, hf⟩ := List.mem_map.mp hi'
    cases hf

theorem Options.eq_of_in_iff {o o' : Options} (h : ∀ i : Item, i.In o ↔ i.In o') : o = o' := by
  have hvalue : o.value? = o'.value? := by
    funext v
    exact Option.ext fun text => h (.value v text)
  have hset : o.isSet = o'.isSet := by
    funext f
    exact Bool.eq_iff_iff.mpr (h (.flag f))
  cases o
  cases o'
  cases hvalue
  cases hset
  rfl

theorem Options.conflicting_eq_false_iff {o : Options} : o.conflicting = false ↔
    ([Valued.db, .json, .url].filter fun v => (o.value? v).isSome).length ≤ 1 ∧
      ¬(o.isSet .quiet = true ∧ o.isSet .verbose = true) := by
  unfold conflicting
  simp only [List.filter]
  cases (o.value? .db).isSome <;> cases (o.value? .json).isSome <;>
    cases (o.value? .url).isSome <;> simp

theorem Item.in_give_iff {o : Options} {i j : Item} (h : i.Free o) :
    j.In (i.give o) ↔ j = i ∨ j.In o := by
  cases i with
  | flag f =>
    cases j with
    | value w text => simp [In, give, Options.setFlag]
    | flag g => simp [In, give, Options.setFlag]
  | value v text =>
    have hv : o.value? v = none := h
    cases j with
    | flag g => simp [In, give, Options.setValue]
    | value w text' =>
      by_cases hw : w = v
      · subst hw
        simp [In, give, Options.setValue, hv, eq_comm]
      · simp [In, give, Options.setValue, hw]

/-! ## One argument -/

namespace Reader

variable {s s' : State} {v : Valued} {text arg : String}

/-- Between two options: none waits for its value, and options may follow. -/
structure State.Idle (s : State) : Prop where
  pending : s.pending = none
  closed : s.closed = false

theorem settle_of_idle (h : s.Idle) : settle s = .ok s := by
  unfold settle
  rw [h.pending]

theorem give_eq_ok {o : Options} (hfree : o.value? v = none)
    (hpath : v.isPath = true → text ≠ "") : give o v (some text) = .ok (o.setValue v text) := by
  have hempty : (v.isPath && text.isEmpty) = false := by
    cases hv : v.isPath with
    | false => rfl
    | true => simpa using hpath hv
  simp [give, hfree, hempty]

theorem takeLong_value (v : Valued) (text : List Char) :
    takeLong s (v.name.toList ++ '=' :: text) = takeValued s v (String.ofList text) := by
  have hsign : '=' ∉ v.name.toList := by cases v <;> decide
  have hname : ∀ c ∈ v.name.toList, (c == '=') = false := by
    intro c hc
    rw [beq_eq_false_iff_ne]
    rintro rfl
    exact hsign hc
  have hkey : Key.ofName? v.name = some (.valued v) := by cases v <;> decide
  unfold takeLong
  rw [cutAt_append (by decide) hname]
  dsimp only
  rw [String.ofList_toList, hkey]

theorem takeLong_flag (f : Flag) : takeLong s f.name.toList = takeFlag s f := by
  cases f <;> rfl

theorem step_long (h : s.Idle) {cs : List Char} (hne : cs ≠ [])
    (harg : arg.toList = '-' :: '-' :: cs) : step s arg = takeLong s cs := by
  obtain ⟨c, rest, rfl⟩ := List.exists_cons_of_ne_nil hne
  unfold step
  rw [h.closed, harg]
  rfl

theorem step_argument (h : s.Idle) {i : Item} (hfree : i.Free s.options) (hfit : i.Fit) :
    step s i.argument = .ok { s with options := i.give s.options } := by
  cases i with
  | value v text =>
    have harg : (Item.value v text).argument.toList =
        '-' :: '-' :: (v.name.toList ++ '=' :: text.toList) := by
      simp [Item.argument]
    rw [step_long h (by simp) harg, takeLong_value, String.ofList_toList, takeValued,
      settle_of_idle h]
    dsimp only [bind, Except.bind]
    rw [give_eq_ok hfree hfit]
    rfl
  | flag f =>
    have harg : (Item.flag f).argument.toList = '-' :: '-' :: f.name.toList := by
      simp [Item.argument]
    have hname : f.name.toList ≠ [] := by cases f <;> decide
    have hset : s.options.isSet f = false := hfree
    rw [step_long h hname harg, takeLong_flag, takeFlag, settle_of_idle h]
    dsimp only [bind, Except.bind]
    rw [hset]
    rfl

/-- Options are given one after another, in any order. What has been given before is part of the
same options, so that none is given twice. -/
theorem foldlM_arguments {o : Options} {items : List Item} (h : s.Idle) (hnodup : items.Nodup)
    (hitems : ∀ i ∈ items, i.In o ∧ i.Fit ∧ ¬i.In s.options)
    (hprior : ∀ i : Item, i.In s.options → i.In o) :
    ∃ s', (items.map Item.argument).foldlM step s = .ok s' ∧ s'.Idle ∧
      ∀ i : Item, i.In s'.options ↔ i ∈ items ∨ i.In s.options := by
  induction items generalizing s with
  | nil => exact ⟨s, rfl, h, by simp⟩
  | cons i rest ih =>
    obtain ⟨hi, hrest⟩ := List.nodup_cons.mp hnodup
    obtain ⟨⟨hin, hfit, hnew⟩, hothers⟩ := List.forall_mem_cons.mp hitems
    have hfree : i.Free s.options := by
      cases i with
      | flag f => exact Bool.eq_false_iff.mpr hnew
      | value v text =>
        -- Another value of the same name would be one of `o`, and so be this one.
        refine Option.eq_none_iff_forall_ne_some.mpr fun text' htext' => ?_
        have hsame : o.value? v = some text' := hprior (.value v text') htext'
        obtain rfl : text = text' := Option.some.inj (hin.symm.trans hsame)
        exact hnew htext'
    have hgive : ∀ j : Item, j.In (i.give s.options) ↔ j = i ∨ j.In s.options :=
      fun j => Item.in_give_iff hfree
    have hidle : State.Idle { s with options := i.give s.options } := ⟨h.pending, h.closed⟩
    have hfresh : ∀ j ∈ rest, j.In o ∧ j.Fit ∧ ¬j.In (i.give s.options) := by
      intro j hj
      obtain ⟨hjin, hjfit, hjnew⟩ := hothers j hj
      refine ⟨hjin, hjfit, fun hgiven => ?_⟩
      rcases (hgive j).mp hgiven with rfl | hgiven
      · exact hi hj
      · exact hjnew hgiven
    have hkept : ∀ j : Item, j.In (i.give s.options) → j.In o := by
      intro j hj
      rcases (hgive j).mp hj with rfl | hj
      · exact hin
      · exact hprior j hj
    obtain ⟨s', hfold, hidle', hin'⟩ := ih hidle hrest hfresh hkept
    refine ⟨s', ?_, hidle', fun j => ?_⟩
    · exact foldlM_cons_eq_ok_iff.mpr ⟨_, step_argument h hfree hfit, hfold⟩
    · rw [hin', hgive, List.mem_cons]
      tauto

/-! ## Paths -/

theorem noEmptyPath_of_give {o o' : Options} {value : Option String} (ho : o.NoEmptyPath)
    (h : give o v value = .ok o') : o'.NoEmptyPath := by
  unfold give at h
  split at h
  · cases h
  next text _ =>
  split at h
  · cases h
  split at h
  · cases h
  next hempty =>
  cases h
  intro w hw
  by_cases hsame : w = v
  · subst hsame
    simpa [Options.setValue, hw] using hempty
  · simpa [Options.setValue, hsame] using ho w hw

theorem noEmptyPath_of_settle (hs : s.options.NoEmptyPath) (h : settle s = .ok s') :
    s'.options.NoEmptyPath := by
  unfold settle at h
  split at h
  · cases h
    exact hs
  · obtain ⟨o, ho, h⟩ := bind_eq_ok_iff.mp h
    cases h
    exact noEmptyPath_of_give hs ho

theorem noEmptyPath_of_takeValued (hs : s.options.NoEmptyPath) (h : takeValued s v text = .ok s') :
    s'.options.NoEmptyPath := by
  obtain ⟨settled, hsettled, h⟩ := bind_eq_ok_iff.mp h
  obtain ⟨o, ho, h⟩ := bind_eq_ok_iff.mp h
  cases h
  exact noEmptyPath_of_give (noEmptyPath_of_settle hs hsettled) ho

theorem noEmptyPath_of_takeBare (hs : s.options.NoEmptyPath) {key : Key}
    (h : takeBare s key = .ok s') : s'.options.NoEmptyPath := by
  cases key with
  | valued v =>
    obtain ⟨settled, hsettled, h⟩ := bind_eq_ok_iff.mp h
    have hpaths := noEmptyPath_of_settle hs hsettled
    cases h
    exact hpaths
  | flag f =>
    obtain ⟨settled, hsettled, h⟩ := bind_eq_ok_iff.mp h
    have hpaths := noEmptyPath_of_settle hs hsettled
    dsimp only at h
    split at h
    · cases h
    · cases h
      exact hpaths
  | help =>
    obtain ⟨_, -, h⟩ := bind_eq_ok_iff.mp h
    cases h
  | version =>
    obtain ⟨_, -, h⟩ := bind_eq_ok_iff.mp h
    cases h

theorem noEmptyPath_of_takeLong (hs : s.options.NoEmptyPath) {cs : List Char}
    (h : takeLong s cs = .ok s') : s'.options.NoEmptyPath := by
  unfold takeLong at h
  dsimp only at h
  split at h
  · cases h
  · exact noEmptyPath_of_takeValued hs h
  · cases h
  · exact noEmptyPath_of_takeBare hs h

theorem noEmptyPath_of_takeLetters (hs : s.options.NoEmptyPath) {cs : List Char}
    (h : takeLetters s cs = .ok s') : s'.options.NoEmptyPath := by
  induction cs generalizing s with
  | nil =>
    cases h
    exact hs
  | cons c rest ih =>
    unfold takeLetters at h
    split at h
    · cases h
    · exact noEmptyPath_of_takeValued hs h
    · exact noEmptyPath_of_takeValued hs h
    · obtain ⟨next, hnext, h⟩ := bind_eq_ok_iff.mp h
      exact ih (noEmptyPath_of_takeBare hs hnext) h

theorem noEmptyPath_of_step (hs : s.options.NoEmptyPath) (h : step s arg = .ok s') :
    s'.options.NoEmptyPath := by
  unfold step at h
  split at h
  · cases h
  split at h
  · cases h
    exact hs
  · exact noEmptyPath_of_takeLong hs h
  · exact noEmptyPath_of_takeLetters hs h
  · unfold takePlain at h
    split at h
    · cases h
      exact hs
    · cases h

theorem consistent_of_finish (hs : s.options.NoEmptyPath) {o : Options} (h : finish s = .ok o) :
    o.Consistent := by
  obtain ⟨settled, hsettled, h⟩ := bind_eq_ok_iff.mp h
  dsimp only at h
  split at h
  · cases h
  next hconflicting =>
  cases h
  have hfree := Options.conflicting_eq_false_iff.mp (Bool.eq_false_iff.mpr hconflicting)
  exact ⟨hfree.1, hfree.2, noEmptyPath_of_settle hs hsettled⟩

end Reader

variable {o : Options}

theorem consistent_of_read {args : List String} (h : read args = .ok o) : o.Consistent := by
  obtain ⟨s, hs, hfinish⟩ := bind_eq_ok_iff.mp h
  have hstart : Options.NoEmptyPath {} := fun v _ hv => nomatch hv
  have hkeeps : ∀ arg ∈ args, ∀ s s', s.options.NoEmptyPath → Reader.step s arg = .ok s' →
      s'.options.NoEmptyPath := fun _ _ _ _ => Reader.noEmptyPath_of_step
  have hpaths : s.options.NoEmptyPath :=
    foldlM_keeps (P := fun s => s.options.NoEmptyPath) hkeeps hstart hs
  exact Reader.consistent_of_finish hpaths hfinish

theorem read_items (h : o.Consistent) {items : List Item} (hitems : items.Perm o.items) :
    read (items.map Item.argument) = .ok o := by
  have hmem : ∀ i : Item, i ∈ items ↔ i.In o := fun i => hitems.mem_iff.trans Options.mem_items_iff
  have hnone : ∀ i : Item, ¬i.In {} := by
    intro i hi
    cases i <;> cases hi
  have hall : ∀ i ∈ items, i.In o ∧ i.Fit ∧ ¬i.In {} := by
    intro i hi
    refine ⟨(hmem i).mp hi, ?_, hnone i⟩
    cases i with
    | flag f => trivial
    | value v text =>
      rintro hpath rfl
      exact h.paths v hpath ((hmem _).mp hi)
  obtain ⟨s, hfold, hidle, hin⟩ := Reader.foldlM_arguments (s := {}) ⟨rfl, rfl⟩
    (hitems.nodup_iff.mpr o.nodup_items) hall fun i hi => absurd hi (hnone i)
  have hoptions : s.options = o := by
    refine Options.eq_of_in_iff fun i => ?_
    rw [hin, hmem, or_iff_left (hnone i)]
  refine bind_eq_ok_iff.mpr ⟨s, hfold, ?_⟩
  have hconflicting : s.options.conflicting = false :=
    hoptions ▸ Options.conflicting_eq_false_iff.mpr ⟨h.source, h.loudness⟩
  rw [Reader.finish, Reader.settle_of_idle hidle]
  dsimp only [bind, Except.bind]
  rw [hconflicting, hoptions]
  rfl

/-- Command lines denote exactly the consistent options: these are read back from their names and
values in every order, and whatever a command line is made of, what it is read as is consistent. -/
theorem read_iff_consistent (o : Options) :
    (o.Consistent → ∀ items : List Item, items.Perm o.items →
      read (items.map Item.argument) = .ok o) ∧
    ∀ args, read args = .ok o → o.Consistent :=
  ⟨fun h _ hitems => read_items h hitems, fun _ h => consistent_of_read h⟩

/-- An address that looks like an option, beside an empty token and a flag. -/
def lookalikeOptions : Options :=
  ((Options.setValue {} .url "--db=a").setValue .token "").setFlag .quiet

theorem read_lookalikeOptions :
    read ["--quiet", "--token=", "--url=--db=a"] = .ok lookalikeOptions ∧
    read ["-qu--db=a", "-t="] = .ok lookalikeOptions ∧ lookalikeOptions.Consistent := by
  have hbundled : read ["-qu--db=a", "-t="] = .ok lookalikeOptions := by rfl
  have hconsistent := (read_iff_consistent lookalikeOptions).2 _ hbundled
  have horder : [Item.flag .quiet, .value .token "", .value .url "--db=a"].Perm
      lookalikeOptions.items := by decide
  exact ⟨(read_iff_consistent lookalikeOptions).1 hconsistent _ horder, hbundled, hconsistent⟩

end SchemaGen.CommandLine
