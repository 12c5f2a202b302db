import SchemaGen.Proofs.Entries
import SchemaGen.Proofs.Traversal

/-! # Records read member by member

A record is read entry by entry, or item by item, each by a member of its own. A member that reads
one part of the record and is the only one to change it (`Holds`) makes this part what stands under
its key (`Holds.get_eq`) or in its place (`Holds.get_eq_of_item`). A property that every member
keeps holds of all that is read (`foldlM_readEntry_keeps`, `readItems_keeps`).
-/

namespace SchemaGen.Members

set_option autoImplicit false

variable {ρ ν ε α : Type} {members : List (String × (ρ → ν → Except ε ρ))} {key : String}
  {value : ν → Except ε α} {get : ρ → α}

/-! ## Steps -/

/-- One entry, which counts only if it has a member. -/
def readEntry (members : List (String × (ρ → ν → Except ε ρ))) (r : ρ) (entry : String × ν) :
    Except ε ρ :=
  match members.lookup entry.1 with
  | some read => read r entry.2
  | none => .ok r

/-- Items, one for each member as long as both last. -/
def readItems : List (String × (ρ → ν → Except ε ρ)) → ρ → List ν → Except ε ρ
  | (_, read) :: members, r, item :: items => do readItems members (← read r item) items
  | _, r, _ => .ok r

theorem readItems_cons_eq_ok {name : String} {read : ρ → ν → Except ε ρ} {r r' : ρ} {item : ν}
    {items : List ν} (h : readItems ((name, read) :: members) r (item :: items) = .ok r') :
    ∃ next, read r item = .ok next ∧ readItems members next items = .ok r' :=
  bind_eq_ok_iff.mp h

/-! ## What every member keeps -/

section Keeping

variable {P : ρ → Prop}

theorem readEntry_keeps (h : ∀ m ∈ members, ∀ r v r', P r → m.2 r v = .ok r' → P r') {r r' : ρ}
    {entry : String × ν} (hr : P r) (hread : readEntry members r entry = .ok r') : P r' := by
  unfold readEntry at hread
  split at hread
  · next read hlookup => exact h _ (Entries.mem_of_lookup hlookup) r entry.2 r' hr hread
  · exact Except.ok.inj hread ▸ hr

theorem foldlM_readEntry_keeps (h : ∀ m ∈ members, ∀ r v r', P r → m.2 r v = .ok r' → P r')
    {entries : List (String × ν)} {r r' : ρ} (hr : P r)
    (hread : entries.foldlM (readEntry members) r = .ok r') : P r' :=
  foldlM_keeps (fun _ _ _ _ hs hentry => readEntry_keeps h hs hentry) hr hread

theorem readItems_keeps (h : ∀ m ∈ members, ∀ r v r', P r → m.2 r v = .ok r' → P r')
    {items : List ν} {r r' : ρ} (hr : P r) (hread : readItems members r items = .ok r') : P r' := by
  induction members generalizing items r with
  | nil => exact Except.ok.inj hread ▸ hr
  | cons m rest ih =>
    cases items with
    | nil => exact Except.ok.inj hread ▸ hr
    | cons item items =>
      obtain ⟨next, hitem, hrest⟩ := readItems_cons_eq_ok hread
      have hnext : P next := h m (List.mem_cons_self ..) r item next hr hitem
      exact ih (fun m' hm' => h m' (List.mem_cons_of_mem m hm')) hnext hrest

end Keeping

/-! ## Parts -/

/-- The member under a key reads a part of the record, which no other member changes. -/
structure Holds (members : List (String × (ρ → ν → Except ε ρ))) (key : String)
    (value : ν → Except ε α) (get : ρ → α) : Prop where
  isMember : (members.lookup key).isSome
  own : ∀ m ∈ members, m.1 = key → ∀ r v r', m.2 r v = .ok r' → value v = .ok (get r')
  other : ∀ m ∈ members, m.1 ≠ key → ∀ r v r', m.2 r v = .ok r' → get r' = get r

theorem Holds.readEntry_own (h : Holds members key value get) {r r' : ρ} {v : ν}
    (hread : readEntry members r (key, v) = .ok r') : value v = .ok (get r') := by
  obtain ⟨read, hlookup⟩ := Option.isSome_iff_exists.mp h.isMember
  simp only [readEntry, hlookup] at hread
  exact h.own _ (Entries.mem_of_lookup hlookup) rfl r v r' hread

theorem Holds.readEntry_other (h : Holds members key value get) {r r' : ρ} {entry : String × ν}
    (hne : entry.1 ≠ key) (hread : readEntry members r entry = .ok r') : get r' = get r := by
  unfold readEntry at hread
  split at hread
  · next read hlookup => exact h.other _ (Entries.mem_of_lookup hlookup) hne r entry.2 r' hread
  · rw [Except.ok.inj hread]

theorem Holds.foldlM_other (h : Holds members key value get) {entries : List (String × ν)}
    (hkey : key ∉ entries.map Prod.fst) {r r' : ρ}
    (hread : entries.foldlM (readEntry members) r = .ok r') : get r' = get r := by
  refine foldlM_keeps (P := fun s => get s = get r) (fun entry hmem s s' hs hentry => ?_) rfl hread
  have hne : entry.1 ≠ key := fun heq => hkey (heq ▸ List.mem_map_of_mem hmem)
  exact (h.readEntry_other hne hentry).trans hs

/-- Of the entries under a key the last one counts. -/
theorem Holds.foldlM_last (h : Holds members key value get) {before after : List (String × ν)}
    {v : ν} (hafter : key ∉ after.map Prod.fst) {r r' : ρ}
    (hread : (before ++ (key, v) :: after).foldlM (readEntry members) r = .ok r') :
    value v = .ok (get r') := by
  obtain ⟨prior, next, hentry, hrest⟩ := exists_of_foldlM_eq_ok hread
  rw [h.foldlM_other hafter hrest]
  exact h.readEntry_own hentry

theorem Holds.foldlM_own (h : Holds members key value get) {entries : List (String × ν)}
    (hkeys : (entries.map Prod.fst).Nodup) {v : ν} (hv : (key, v) ∈ entries) {r r' : ρ}
    (hread : entries.foldlM (readEntry members) r = .ok r') : value v = .ok (get r') := by
  obtain ⟨before, after, rfl⟩ := List.append_of_mem hv
  rw [List.map_append, List.map_cons] at hkeys
  have hafter : key ∉ after.map Prod.fst :=
    (List.nodup_cons.mp (List.nodup_append.mp hkeys).2.1).1
  exact h.foldlM_last hafter hread

/-- A part is what stands under its key, or what it was. -/
theorem Holds.get_eq (h : Holds members key value get) {entries : List (String × ν)}
    (hkeys : (entries.map Prod.fst).Nodup) {r r' : ρ}
    (hread : entries.foldlM (readEntry members) r = .ok r') {a : α}
    (hvalue : ∀ v, entries.lookup key = some v → value v = .ok a)
    (hnone : entries.lookup key = none → get r = a) : get r' = a := by
  cases hlookup : entries.lookup key with
  | some v =>
    have hown := h.foldlM_own hkeys (Entries.mem_of_lookup hlookup) hread
    rw [hvalue v hlookup] at hown
    exact (Except.ok.inj hown).symm
  | none =>
    have hkey : key ∉ entries.map Prod.fst := by
      intro hmem
      obtain ⟨entry, hentry, rfl⟩ := List.mem_map.mp hmem
      rw [Entries.lookup_of_mem hkeys hentry] at hlookup
      cases hlookup
    rw [h.foldlM_other hkey hread]
    exact hnone hlookup

theorem readItems_other {ms : List (String × (ρ → ν → Except ε ρ))}
    (h : ∀ m ∈ ms, ∀ r v r', m.2 r v = .ok r' → get r' = get r) {items : List ν} {r r' : ρ}
    (hread : readItems ms r items = .ok r') : get r' = get r := by
  have hkeeps : ∀ m ∈ ms, ∀ s v s', get s = get r → m.2 s v = .ok s' → get s' = get r :=
    fun m hm s v s' hs hread => (h m hm s v s' hread).trans hs
  exact readItems_keeps (P := fun s => get s = get r) hkeeps rfl hread

/-- A part is what stands in its place among the items. -/
theorem Holds.get_eq_of_item (h : Holds members key value get)
    (hkeys : (members.map Prod.fst).Nodup) {place : Nat} {read : ρ → ν → Except ε ρ}
    (hplace : members[place]? = some (key, read)) {items : List ν} {v : ν}
    (hitem : items[place]? = some v) {r r' : ρ} (hread : readItems members r items = .ok r') :
    value v = .ok (get r') := by
  -- Only the members are taken apart, so what they do is all that is kept of the hypothesis.
  obtain ⟨-, hown, hother⟩ := h
  induction members generalizing place items r with
  | nil => cases hplace
  | cons m rest ih =>
    rw [List.map_cons, List.nodup_cons] at hkeys
    cases items with
    | nil => cases hitem
    | cons item items =>
      obtain ⟨next, hnext, hrest⟩ := readItems_cons_eq_ok hread
      cases place with
      | zero =>
        obtain rfl := Option.some.inj hplace
        obtain rfl := Option.some.inj hitem
        have hlater : ∀ m ∈ rest, ∀ r v r', m.2 r v = .ok r' → get r' = get r := by
          intro later hlater
          have hname : later.1 ∈ rest.map Prod.fst := List.mem_map_of_mem hlater
          have hne : later.1 ≠ key := by
            intro heq
            rw [heq] at hname
            exact hkeys.1 hname
          exact hother later (List.mem_cons_of_mem _ hlater) hne
        rw [readItems_other hlater hrest]
        exact hown _ (List.mem_cons_self ..) rfl r item next hnext
      | succ place =>
        exact ih hkeys.2 hplace hitem hrest
          (fun m hm => hown m (List.mem_cons_of_mem _ hm))
          (fun m hm => hother m (List.mem_cons_of_mem _ hm))

/-! ## Readable records -/

theorem exists_foldlM_readEntry {entries : List (String × ν)}
    (h : ∀ key read v, (key, read) ∈ members → (key, v) ∈ entries → ∀ r, ∃ r', read r v = .ok r')
    (r : ρ) : ∃ r', entries.foldlM (readEntry members) r = .ok r' := by
  refine exists_foldlM_eq_ok (fun entry hentry s => ?_) r
  unfold readEntry
  cases hlookup : members.lookup entry.1 with
  | none => exact ⟨s, rfl⟩
  | some read => exact h entry.1 read entry.2 (Entries.mem_of_lookup hlookup) hentry s

end SchemaGen.Members
