import SchemaGen.Config.Toml.Document
import SchemaGen.Proofs.Entries

/-! # Values whose tables are in order

A table that is read has each key once, in ascending order, and so have the tables in it. Of the
values of variables (`Literal.ordered_parse`) this holds as their members are put in one by one, of
documents (`Toml.orderedEntries_of_parse?`) as their tables are brought in order at the end, when
the values in them have been read likewise.
-/

namespace SchemaGen.Config

set_option autoImplicit false

open Entries (Ascending)

/-! ## Ordered values -/

/-- The keys of each table in the value ascend. -/
inductive Value.Ordered : Value → Prop
  | scalar (origin : Origin) (s : Scalar) : Ordered (.scalar origin s)
  | list (origin : Origin) {items : List Value} (h : ∀ v ∈ items, Ordered v) :
    Ordered (.list origin items)
  | table (origin : Origin) {entries : List (String × Value)} (hkeys : Ascending entries)
    (h : ∀ entry ∈ entries, Ordered entry.2) : Ordered (.table origin entries)

open Value (Ordered)

/-- Entries that make up an ordered table. -/
structure OrderedEntries (entries : List (String × Value)) : Prop where
  ascending : Ascending entries
  ordered : ∀ entry ∈ entries, Ordered entry.2

theorem OrderedEntries.nil : OrderedEntries [] := ⟨List.Pairwise.nil, by simp⟩

theorem OrderedEntries.insert {entries : List (String × Value)} (h : OrderedEntries entries)
    (key : String) {v : Value} (hv : Ordered v) :
    OrderedEntries (Entries.insert key v entries) := by
  refine ⟨h.ascending.insert key v, ?_⟩
  intro entry hentry
  rcases Entries.mem_insert hentry with rfl | hentry
  · exact hv
  · exact h.ordered entry hentry

theorem OrderedEntries.table {entries : List (String × Value)} (h : OrderedEntries entries)
    (origin : Origin) : Ordered (.table origin entries) :=
  .table origin h.ascending h.ordered

def OrderedValues (values : List Value) : Prop := ∀ v ∈ values, Ordered v

theorem OrderedValues.cons {values : List Value} (h : OrderedValues values) {v : Value}
    (hv : Ordered v) : OrderedValues (v :: values) := by
  intro w hw
  rcases List.mem_cons.mp hw with rfl | hw
  · exact hv
  · exact h w hw

theorem OrderedValues.reverse {values : List Value} (h : OrderedValues values) :
    OrderedValues values.reverse := fun v hv => h v (List.mem_reverse.mp hv)

/-! ## Values of variables -/

namespace Literal

theorem value?_list {cs rest : List Char} (h : skipBlank cs = '[' :: rest) (fuel : Nat) :
    value? (fuel + 1) cs =
      (items? fuel [] rest).map fun (l, rest) => (.list .environment l, skipBlank rest) := by
  simp only [value?, h]
  cases items? fuel [] rest <;> rfl

theorem value?_table {cs rest : List Char} (h : skipBlank cs = '\x7b' :: rest) (fuel : Nat) :
    value? (fuel + 1) cs =
      (members? fuel [] rest).map fun (t, rest) => (.table .environment t, skipBlank rest) := by
  simp only [value?, h]
  cases members? fuel [] rest <;> rfl

theorem value?_scalar {cs : List Char} (hlist : ∀ rest, skipBlank cs ≠ '[' :: rest)
    (htable : ∀ rest, skipBlank cs ≠ '\x7b' :: rest) (fuel : Nat) :
    value? (fuel + 1) cs =
      (scalar? (skipBlank cs)).map fun (s, rest) => (.scalar .environment s, skipBlank rest) := by
  rw [value?]
  split
  · next rest h => exact absurd h (hlist rest)
  · next rest h => exact absurd h (htable rest)
  · cases scalar? (skipBlank cs) <;> rfl

/-- How a value is read: as a list, as a table or as a scalar. -/
theorem value?_cases {fuel : Nat} {cs rest : List Char} {v : Value}
    (h : value? (fuel + 1) cs = some (v, rest)) :
    (∃ inner l last, items? fuel [] inner = some (l, last) ∧ v = .list .environment l) ∨
    (∃ inner t last, members? fuel [] inner = some (t, last) ∧ v = .table .environment t) ∨
    ∃ s last, scalar? (skipBlank cs) = some (s, last) ∧ rest = skipBlank last ∧
      v = .scalar .environment s := by
  by_cases hlist : ∃ inner, skipBlank cs = '[' :: inner
  · obtain ⟨inner, hinner⟩ := hlist
    rw [value?_list hinner, Option.map_eq_some_iff] at h
    obtain ⟨⟨l, last⟩, hread, heq⟩ := h
    exact .inl ⟨inner, l, last, hread, (congrArg Prod.fst heq).symm⟩
  by_cases htable : ∃ inner, skipBlank cs = '\x7b' :: inner
  · obtain ⟨inner, hinner⟩ := htable
    rw [value?_table hinner, Option.map_eq_some_iff] at h
    obtain ⟨⟨t, last⟩, hread, heq⟩ := h
    exact .inr (.inl ⟨inner, t, last, hread, (congrArg Prod.fst heq).symm⟩)
  · rw [not_exists] at hlist htable
    rw [value?_scalar hlist htable, Option.map_eq_some_iff] at h
    obtain ⟨⟨s, last⟩, hread, heq⟩ := h
    exact .inr (.inr ⟨s, last, hread, (congrArg Prod.snd heq).symm, (congrArg Prod.fst heq).symm⟩)

/-- What one more value makes of the items before it. -/
theorem items?_cases {fuel : Nat} {before l : List Value} {cs rest : List Char}
    (h : items? (fuel + 1) before cs = some (l, rest)) : l = before.reverse ∨
      ∃ v after, value? fuel cs = some (v, after) ∧ (l = (v :: before).reverse ∨
        ∃ next, items? fuel (v :: before) next = some (l, rest)) := by
  unfold items? at h
  split at h
  · obtain ⟨rfl, -⟩ := Prod.mk.injEq .. ▸ Option.some.inj h
    exact .inl rfl
  · obtain ⟨⟨v, after⟩, hv, h⟩ := Option.bind_eq_some_iff.mp h
    refine .inr ⟨v, after, hv, ?_⟩
    split at h
    · next heq =>
      obtain ⟨rfl, rfl⟩ := Prod.mk.injEq .. ▸ heq
      exact .inr ⟨_, h⟩
    · next heq =>
      obtain ⟨rfl, rfl⟩ := Prod.mk.injEq .. ▸ heq
      exact .inl (congrArg Prod.fst (Option.some.inj h)).symm
    · cases h

/-- What one more member makes of those before it. -/
theorem members?_cases {fuel : Nat} {before t : List (String × Value)} {cs rest : List Char}
    (h : members? (fuel + 1) before cs = some (t, rest)) : t = before ∨
      ∃ key v inner after, value? fuel inner = some (v, after) ∧ (t = Entries.insert key v before ∨
        ∃ next, members? fuel (Entries.insert key v before) next = some (t, rest)) := by
  unfold members? at h
  split at h
  · exact .inl (congrArg Prod.fst (Option.some.inj h)).symm
  · obtain ⟨⟨key, afterKey⟩, -, h⟩ := Option.bind_eq_some_iff.mp h
    dsimp only at h
    split at h
    · next inner _ =>
      obtain ⟨⟨v, after⟩, hv, h⟩ := Option.bind_eq_some_iff.mp h
      refine .inr ⟨key, v, inner, after, hv, ?_⟩
      split at h
      · next heq =>
        obtain ⟨rfl, rfl⟩ := Prod.mk.injEq .. ▸ heq
        exact .inr ⟨_, h⟩
      · next heq =>
        obtain ⟨rfl, rfl⟩ := Prod.mk.injEq .. ▸ heq
        exact .inl (congrArg Prod.fst (Option.some.inj h)).symm
      · cases h
    · cases h

/-- Values, items and members that are read with some fuel are in order. -/
structure ReadsOrdered (fuel : Nat) : Prop where
  value : ∀ cs v rest, value? fuel cs = some (v, rest) → Ordered v
  items : ∀ before cs l rest, OrderedValues before → items? fuel before cs = some (l, rest) →
    OrderedValues l
  members : ∀ before cs t rest, OrderedEntries before → members? fuel before cs = some (t, rest) →
    OrderedEntries t

theorem readsOrdered (fuel : Nat) : ReadsOrdered fuel := by
  induction fuel with
  | zero =>
    constructor
    · intro cs v rest h
      cases h
    · intro before cs l rest _ h
      cases h
    · intro before cs t rest _ h
      cases h
  | succ fuel ih =>
    constructor
    · intro cs v rest h
      rcases value?_cases h with ⟨inner, l, last, hread, rfl⟩ | ⟨inner, t, last, hread, rfl⟩ |
        ⟨s, last, -, -, rfl⟩
      · exact .list .environment (ih.items [] inner l last (by simp [OrderedValues]) hread)
      · exact (ih.members [] inner t last .nil hread).table .environment
      · exact .scalar .environment s
    · intro before cs l rest hbefore h
      rcases items?_cases h with rfl | ⟨v, after, hv, rfl | ⟨next, hnext⟩⟩
      · exact hbefore.reverse
      · exact (hbefore.cons (ih.value cs v after hv)).reverse
      · exact ih.items _ next l rest (hbefore.cons (ih.value cs v after hv)) hnext
    · intro before cs t rest hbefore h
      rcases members?_cases h with rfl | ⟨key, v, inner, after, hv, rfl | ⟨next, hnext⟩⟩
      · exact hbefore
      · exact hbefore.insert key (ih.value inner v after hv)
      · exact ih.members _ next t rest (hbefore.insert key (ih.value inner v after hv)) hnext

theorem ordered_parse (text : String) : Ordered (parse text) := by
  unfold parse
  split
  · next v h => exact (readsOrdered _).value _ v [] h
  · exact .scalar .environment (.text text)

end Literal

/-! ## Documents -/

namespace Toml

/-- The values in a table under construction are in order. -/
inductive Node.Ordered : Node → Prop
  | value {v : Value} (h : v.Ordered) : Node.Ordered (.value v)
  | table (implied dotted : Bool) {entries : Nodes} (h : ∀ entry ∈ entries, Node.Ordered entry.2) :
    Node.Ordered (.table implied dotted entries)
  | tables {items : List Nodes} (h : ∀ nodes ∈ items, ∀ entry ∈ nodes, Node.Ordered entry.2) :
    Node.Ordered (.tables items)

def OrderedNodes (nodes : Nodes) : Prop := ∀ entry ∈ nodes, entry.2.Ordered

theorem OrderedNodes.nil : OrderedNodes [] := by simp [OrderedNodes]

theorem OrderedNodes.append {nodes : Nodes} (h : OrderedNodes nodes) (key : String) {node : Node}
    (hnode : node.Ordered) : OrderedNodes (nodes ++ [(key, node)]) := by
  intro entry hentry
  rcases List.mem_append.mp hentry with hentry | hentry
  · exact h entry hentry
  · rw [List.mem_singleton.mp hentry]
    exact hnode

theorem OrderedNodes.replace {nodes : Nodes} (h : OrderedNodes nodes) (key : String) {node : Node}
    (hnode : node.Ordered) : OrderedNodes (Entries.replace key node nodes) := by
  intro entry hentry
  rcases Entries.mem_replace hentry with rfl | hentry
  · exact hnode
  · exact h entry hentry

theorem OrderedNodes.lookup {nodes : Nodes} (h : OrderedNodes nodes) {key : String} {node : Node}
    (hlookup : nodes.lookup key = some node) : node.Ordered :=
  h (key, node) (Entries.mem_of_lookup hlookup)

theorem OrderedNodes.of_table {implied dotted : Bool} {entries : Nodes}
    (h : (Node.table implied dotted entries).Ordered) : OrderedNodes entries := by
  cases h with
  | table _ _ h => exact h

/-! ### Changes -/

/-- A change that keeps values in order does so wherever it is made. -/
theorem OrderedNodes.changeAt {byKey : Bool} {change : Bool → Nodes → Option Nodes}
    (hchange : ∀ dotted nodes changed, OrderedNodes nodes → change dotted nodes = some changed →
      OrderedNodes changed) {path : List String} {dotted : Bool} {nodes changed : Nodes}
    (h : OrderedNodes nodes) (hread : changeAt byKey change path dotted nodes = some changed) :
    OrderedNodes changed := by
  induction path generalizing dotted nodes changed with
  | nil => exact hchange dotted nodes changed h hread
  | cons key path ih =>
    have hput {new : Option Node} (hnew : ∀ node, new = some node → node.Ordered)
        (hput : (new.bind fun node => some (Entries.replace key node nodes)) = some changed) :
        OrderedNodes changed := by
      obtain ⟨node, hnode, hput⟩ := Option.bind_eq_some_iff.mp hput
      rw [← Option.some.inj hput]
      exact h.replace key (hnew node hnode)
    unfold Toml.changeAt at hread
    split at hread
    · -- A table that is missing is made on the way.
      refine hput (fun node hnode => ?_) hread
      obtain ⟨inner, hinner, rfl⟩ := Option.map_eq_some_iff.mp hnode
      exact .table true byKey (ih .nil hinner)
    · cases hread
    · cases hread
    · next last before hlookup =>
      cases h.lookup hlookup with
      | tables hitems =>
        refine hput (fun node hnode => ?_) hread
        obtain ⟨inner, hinner, rfl⟩ := Option.map_eq_some_iff.mp hnode
        refine .tables fun nodes hnodes => ?_
        rcases List.mem_cons.mp hnodes with rfl | hnodes
        · exact ih (hitems last (List.mem_cons_self ..)) hinner
        · exact hitems nodes (List.mem_cons_of_mem _ hnodes)
    · next implied made entries hlookup =>
      split at hread
      · cases hread
      · refine hput (fun node hnode => ?_) hread
        obtain ⟨inner, hinner, rfl⟩ := Option.map_eq_some_iff.mp hnode
        exact .table implied made (ih (OrderedNodes.of_table (h.lookup hlookup)) hinner)

theorem OrderedNodes.define {path : List String} {v : Value} {nodes changed : Nodes}
    (h : OrderedNodes nodes) (hv : Ordered v) (hread : define path v nodes = some changed) :
    OrderedNodes changed := by
  refine h.changeAt ?_ hread
  intro dotted nodes changed hnodes hput
  obtain ⟨key, -, hput⟩ := Option.bind_eq_some_iff.mp hput
  split at hput
  · cases hput
  · rw [← Option.some.inj hput]
    exact hnodes.append key (.value hv)

theorem OrderedNodes.startTable {path : List String} {nodes changed : Nodes}
    (h : OrderedNodes nodes) (hread : startTable path nodes = some changed) :
    OrderedNodes changed := by
  refine h.changeAt ?_ hread
  intro dotted nodes changed hnodes hput
  obtain ⟨key, -, hput⟩ := Option.bind_eq_some_iff.mp hput
  split at hput
  · rw [← Option.some.inj hput]
    exact hnodes.append key (.table false false OrderedNodes.nil)
  · next inner hlookup =>
    rw [← Option.some.inj hput]
    exact hnodes.replace key (.table false false (OrderedNodes.of_table (hnodes.lookup hlookup)))
  · cases hput

theorem OrderedNodes.startItem {path : List String} {nodes changed : Nodes}
    (h : OrderedNodes nodes) (hread : startItem path nodes = some changed) :
    OrderedNodes changed := by
  refine h.changeAt ?_ hread
  intro dotted nodes changed hnodes hput
  obtain ⟨key, -, hput⟩ := Option.bind_eq_some_iff.mp hput
  split at hput
  · rw [← Option.some.inj hput]
    exact hnodes.append key (.tables (by simp))
  · next items hlookup =>
    rw [← Option.some.inj hput]
    cases hnodes.lookup hlookup with
    | tables hitems => exact hnodes.replace key (.tables (by simpa using hitems))
  · cases hput

theorem OrderedNodes.defineAt {path key : List String} {v : Value} {nodes changed : Nodes}
    (h : OrderedNodes nodes) (hv : Ordered v) (hread : defineAt path key v nodes = some changed) :
    OrderedNodes changed :=
  h.changeAt (fun _ _ _ hnodes hput => hnodes.define hv hput) hread

/-! ### Finished tables -/

mutual

theorem Node.Ordered.toValue (origin : Origin) :
    ∀ {node : Node}, node.Ordered → (node.toValue origin).Ordered
  | .value _, .value hv => hv
  | .table _ _ entries, .table _ _ h => (orderedEntries_entryValues origin entries h).table origin
  | .tables items, .tables h => .list origin (orderedValues_itemValues origin items h).reverse

theorem orderedEntries_entryValues (origin : Origin) :
    ∀ nodes : Nodes, OrderedNodes nodes → OrderedEntries (entryValues origin nodes)
  | [], _ => .nil
  | (key, node) :: rest, h =>
    have hrest := orderedEntries_entryValues origin rest fun e he => h e (List.mem_cons_of_mem _ he)
    hrest.insert key (Node.Ordered.toValue origin (h (key, node) (List.mem_cons_self ..)))

theorem orderedValues_itemValues (origin : Origin) :
    ∀ items : List Nodes, (∀ nodes ∈ items, OrderedNodes nodes) →
      OrderedValues (itemValues origin items)
  | [], _ => by simp [itemValues, OrderedValues]
  | nodes :: rest, h =>
    have hrest := orderedValues_itemValues origin rest fun n hn => h n (List.mem_cons_of_mem _ hn)
    have hfirst := orderedEntries_entryValues origin nodes (h nodes (List.mem_cons_self ..))
    hrest.cons (hfirst.table origin)

end

/-! ### Values in documents -/

theorem ordered_stampValue (origin : Origin) (cs : List Char) : Ordered (stampValue origin cs) := by
  have hentries : OrderedEntries [("date", Value.scalar origin (.text (String.ofList cs)))] :=
    OrderedEntries.nil.insert "date" (.scalar origin _)
  exact hentries.table origin

theorem ordered_wordValue? {origin : Origin} {word : List Char} {v : Value}
    (h : wordValue? origin word = some v) : Ordered v := by
  unfold wordValue? at h
  split at h
  · cases h
    exact .scalar origin _
  split at h
  · cases h
    exact .scalar origin _
  split at h
  · cases h
    exact ordered_stampValue origin word
  split at h
  · cases h
    exact .scalar origin _
  · obtain ⟨d, -, rfl⟩ := Option.map_eq_some_iff.mp h
    exact .scalar origin _

theorem ordered_word? {origin : Origin} {cs rest : List Char} {v : Value}
    (h : word? origin cs = some (v, rest)) : Ordered v := by
  have hword {word after : List Char}
      (hread : (wordValue? origin word).map (·, after) = some (v, rest)) : Ordered v := by
    obtain ⟨w, hw, heq⟩ := Option.map_eq_some_iff.mp hread
    cases heq
    exact ordered_wordValue? hw
  unfold word? at h
  dsimp only at h
  split at h
  · split at h
    · split at h
      · cases h
        exact ordered_stampValue origin _
      · cases h
    · exact hword h
  · exact hword h

/-- Values, items and members that are read with some fuel are in order. -/
structure ReadsOrdered (origin : Origin) (fuel : Nat) : Prop where
  value : ∀ depth cs v rest, value? origin fuel depth cs = some (v, rest) → Ordered v
  items : ∀ depth before cs l rest, OrderedValues before →
    items? origin fuel depth before cs = some (l, rest) → OrderedValues l
  members : ∀ depth before cs t rest, OrderedNodes before →
    members? origin fuel depth before cs = some (t, rest) → OrderedNodes t

variable {origin : Origin} {fuel depth : Nat} {cs rest : List Char}

theorem ordered_string {v : Value} (h : ((string? cs).map fun (s, rest) =>
    (.scalar origin (.text s), rest)) = some (v, rest)) : Ordered v := by
  obtain ⟨⟨s, after⟩, -, heq⟩ := Option.map_eq_some_iff.mp h
  cases heq
  exact .scalar origin _

theorem ReadsOrdered.value_succ (ih : ReadsOrdered origin fuel) {v : Value}
    (h : value? origin (fuel + 1) depth cs = some (v, rest)) : Ordered v := by
  unfold value? at h
  split at h
  · cases h
  · cases h
  · cases h
  · next hfuel =>
    obtain rfl := Nat.succ.inj hfuel
    obtain ⟨⟨items, after⟩, hitems, heq⟩ := Option.bind_eq_some_iff.mp h
    cases heq
    exact .list origin (ih.items _ [] _ _ _ (by simp [OrderedValues]) hitems)
  · next hfuel =>
    obtain rfl := Nat.succ.inj hfuel
    dsimp only at h
    split at h
    · cases h
      exact OrderedEntries.nil.table origin
    · obtain ⟨⟨nodes, after⟩, hmembers, heq⟩ := Option.bind_eq_some_iff.mp h
      cases heq
      have hnodes := ih.members _ [] _ _ _ .nil hmembers
      exact (orderedEntries_entryValues origin nodes hnodes).table origin
  · exact ordered_string h
  · exact ordered_string h
  · exact ordered_word? h

theorem ReadsOrdered.items_succ (ih : ReadsOrdered origin fuel) {before l : List Value}
    (hbefore : OrderedValues before)
    (h : items? origin (fuel + 1) depth before cs = some (l, rest)) : OrderedValues l := by
  unfold items? at h
  obtain ⟨first, -, h⟩ := Option.bind_eq_some_iff.mp h
  split at h
  · cases h
    exact hbefore.reverse
  · obtain ⟨⟨v, after⟩, hv, h⟩ := Option.bind_eq_some_iff.mp h
    have hvalues := hbefore.cons (ih.value _ _ v after hv)
    obtain ⟨next, -, h⟩ := Option.bind_eq_some_iff.mp h
    split at h
    · exact ih.items _ _ _ l rest hvalues h
    · cases h
      exact hvalues.reverse
    · cases h

theorem ReadsOrdered.members_succ (ih : ReadsOrdered origin fuel) {before t : Nodes}
    (hbefore : OrderedNodes before)
    (h : members? origin (fuel + 1) depth before cs = some (t, rest)) : OrderedNodes t := by
  unfold members? at h
  obtain ⟨⟨key, afterKey⟩, -, h⟩ := Option.bind_eq_some_iff.mp h
  obtain ⟨start, -, h⟩ := Option.bind_eq_some_iff.mp h
  obtain ⟨⟨v, after⟩, hv, h⟩ := Option.bind_eq_some_iff.mp h
  obtain ⟨nodes, hnodes, h⟩ := Option.bind_eq_some_iff.mp h
  have hdefined := hbefore.define (ih.value _ _ v after hv) hnodes
  split at h
  · exact ih.members _ _ _ t rest hdefined h
  · cases h
    exact hdefined
  · cases h

theorem readsOrdered (origin : Origin) (fuel : Nat) : ReadsOrdered origin fuel := by
  induction fuel with
  | zero =>
    constructor
    · intro depth cs v rest h
      unfold value? at h
      cases h
    · intro depth before cs l rest _ h
      cases h
    · intro depth before cs t rest _ h
      cases h
  | succ fuel ih =>
    exact ⟨fun _ _ _ _ h => ih.value_succ h, fun _ _ _ _ _ hbefore h => ih.items_succ hbefore h,
      fun _ _ _ _ _ hbefore h => ih.members_succ hbefore h⟩

/-! ### Lines -/

theorem ordered_header? {s next : State} (hs : OrderedNodes s.nodes)
    (h : header? s cs = some (next, rest)) : OrderedNodes next.nodes := by
  unfold header? at h
  split at h
  · obtain ⟨⟨path, afterKey⟩, -, h⟩ := Option.bind_eq_some_iff.mp h
    obtain ⟨closed, -, h⟩ := Option.bind_eq_some_iff.mp h
    obtain ⟨after, -, h⟩ := Option.bind_eq_some_iff.mp h
    obtain ⟨ended, -, h⟩ := Option.bind_eq_some_iff.mp h
    obtain ⟨nodes, hnodes, h⟩ := Option.bind_eq_some_iff.mp h
    cases h
    exact hs.startItem hnodes
  · obtain ⟨⟨path, afterKey⟩, -, h⟩ := Option.bind_eq_some_iff.mp h
    obtain ⟨closed, -, h⟩ := Option.bind_eq_some_iff.mp h
    obtain ⟨after, -, h⟩ := Option.bind_eq_some_iff.mp h
    obtain ⟨nodes, hnodes, h⟩ := Option.bind_eq_some_iff.mp h
    cases h
    exact hs.startTable hnodes

theorem ordered_member? {s next : State} (hs : OrderedNodes s.nodes)
    (h : member? origin s cs = some (next, rest)) : OrderedNodes next.nodes := by
  unfold member? at h
  obtain ⟨⟨key, afterKey⟩, -, h⟩ := Option.bind_eq_some_iff.mp h
  obtain ⟨start, -, h⟩ := Option.bind_eq_some_iff.mp h
  obtain ⟨⟨v, afterValue⟩, hv, h⟩ := Option.bind_eq_some_iff.mp h
  obtain ⟨nodes, hnodes, h⟩ := Option.bind_eq_some_iff.mp h
  obtain ⟨after, -, h⟩ := Option.bind_eq_some_iff.mp h
  cases h
  exact hs.defineAt ((readsOrdered origin _).value _ _ v afterValue hv) hnodes

theorem ordered_lines? {s last : State} (hs : OrderedNodes s.nodes)
    (h : lines? origin fuel s cs = some last) : OrderedNodes last.nodes := by
  induction fuel generalizing s cs with
  | zero => cases h
  | succ fuel ih =>
    unfold lines? at h
    split at h
    · cases h
      exact hs
    · obtain ⟨⟨next, after⟩, hread, h⟩ := Option.bind_eq_some_iff.mp h
      exact ih (ordered_header? hs hread) h
    · obtain ⟨after, -, h⟩ := Option.bind_eq_some_iff.mp h
      exact ih hs h
    · obtain ⟨after, -, h⟩ := Option.bind_eq_some_iff.mp h
      exact ih hs h
    · obtain ⟨after, -, h⟩ := Option.bind_eq_some_iff.mp h
      exact ih hs h
    · obtain ⟨⟨next, after⟩, hread, h⟩ := Option.bind_eq_some_iff.mp h
      exact ih (ordered_member? hs hread) h

/-! ### Wrapped values -/

theorem map_fst_unwrapEntries? {entries unwrapped : List (String × Value)}
    (h : unwrapEntries? entries = some unwrapped) :
    unwrapped.map Prod.fst = entries.map Prod.fst := by
  induction entries generalizing unwrapped with
  | nil =>
    cases h
    rfl
  | cons entry rest ih =>
    obtain ⟨v, -, h⟩ := Option.bind_eq_some_iff.mp h
    obtain ⟨others, hothers, h⟩ := Option.bind_eq_some_iff.mp h
    cases h
    rw [List.map_cons, List.map_cons, ih hothers]

mutual

theorem ordered_unwrap? : ∀ {v w : Value}, Ordered v → unwrap? v = some w → Ordered w
  | .scalar origin s, w, _, h => by
    cases h
    exact .scalar origin s
  | .list origin items, w, .list _ hitems, h => by
    obtain ⟨unwrapped, hunwrapped, rfl⟩ := Option.map_eq_some_iff.mp h
    exact .list origin (orderedValues_unwrapItems? hitems hunwrapped)
  | .table origin entries, w, .table _ hkeys hentries, h => by
    obtain ⟨unwrapped, hunwrapped, h⟩ := Option.bind_eq_some_iff.mp h
    have hordered := orderedEntries_unwrapEntries? ⟨hkeys, hentries⟩ hunwrapped
    split at h
    · cases h
    · cases h
      cases hwrapped : unwrapped.lookup wrappedKey with
      | none => exact hordered.table origin
      | some inner => exact hordered.ordered _ (Entries.mem_of_lookup hwrapped)

theorem orderedValues_unwrapItems? : ∀ {items unwrapped : List Value}, OrderedValues items →
    unwrapItems? items = some unwrapped → OrderedValues unwrapped
  | [], _, hitems, h => by
    cases h
    exact hitems
  | v :: rest, _, hitems, h => by
    obtain ⟨w, hw, h⟩ := Option.bind_eq_some_iff.mp h
    obtain ⟨others, hothers, h⟩ := Option.bind_eq_some_iff.mp h
    cases h
    have hrest : OrderedValues rest := fun u hu => hitems u (List.mem_cons_of_mem _ hu)
    have hfirst := ordered_unwrap? (hitems v (List.mem_cons_self ..)) hw
    exact (orderedValues_unwrapItems? hrest hothers).cons hfirst

theorem orderedEntries_unwrapEntries? : ∀ {entries unwrapped : List (String × Value)},
    OrderedEntries entries → unwrapEntries? entries = some unwrapped → OrderedEntries unwrapped
  | [], _, hentries, h => by
    cases h
    exact hentries
  | (key, v) :: rest, unwrapped, hentries, h => by
    have hkeys : Ascending unwrapped := by
      unfold Ascending
      rw [map_fst_unwrapEntries? h]
      exact hentries.ascending
    obtain ⟨w, hw, h⟩ := Option.bind_eq_some_iff.mp h
    obtain ⟨others, hothers, h⟩ := Option.bind_eq_some_iff.mp h
    cases h
    have hrest : OrderedEntries rest :=
      ⟨(List.pairwise_cons.mp hentries.ascending).2,
        fun e he => hentries.ordered e (List.mem_cons_of_mem _ he)⟩
    refine ⟨hkeys, ?_⟩
    intro entry hentry
    rcases List.mem_cons.mp hentry with rfl | hentry
    · exact ordered_unwrap? (hentries.ordered (key, v) (List.mem_cons_self ..)) hw
    · exact (orderedEntries_unwrapEntries? hrest hothers).ordered entry hentry

end

/-- A document is an ordered table. -/
theorem orderedEntries_of_parse? {text : String} {v : Value}
    (h : parse? origin text = some v) :
    ∃ entries, v = .table origin entries ∧ OrderedEntries entries := by
  obtain ⟨s, hlines, h⟩ := Option.bind_eq_some_iff.mp h
  obtain ⟨entries, hentries, h⟩ := Option.bind_eq_some_iff.mp h
  cases h
  have hnodes : OrderedNodes s.nodes := ordered_lines? OrderedNodes.nil hlines
  exact ⟨entries, rfl,
    orderedEntries_unwrapEntries? (orderedEntries_entryValues origin s.nodes hnodes) hentries⟩

end Toml

end SchemaGen.Config
