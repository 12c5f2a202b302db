import SchemaGen.Proofs.Naming
import SchemaGen.Proofs.Naming.Idempotence
import SchemaGen.Proofs.Script.Characters

/-! # What an identifier shows of a name

The characters of a name that its identifier shows are those of its words, but for a lost letter at
the start of a word among others (`shown`). Case mappings change no digit and give none, so the
identifier starts with a digit exactly if what it shows does (`isDigit_head_identifier`). All its
characters can stand in a name of a script unless the one letter that cannot is in the name
(`identifier_nameParts_iff`).
-/

namespace SchemaGen.Text

set_option autoImplicit false
set_option maxRecDepth 20000

/-! ## Digits -/

theorem caseless_of_isDigit {c : Char} (h : c.isDigit = true) : Caseless c := by
  have hrange := Script.toNat_of_isDigit h
  refine caseless_of_le ?_ (by omega)
  rintro rfl
  exact absurd h (by decide)

/-- A mapping that leaves digits as they are and gives none else. -/
theorem isDigit_of_mem {f : Char → List Char} (hself : ∀ x, x.isDigit = true → f x = [x])
    (hfrom : ∀ {x c}, x.isDigit = true → x ∈ f c → x = c) {c d : Char} (h : d ∈ f c) :
    d.isDigit = c.isDigit := by
  rw [Bool.eq_iff_iff]
  constructor
  · intro hd
    exact hfrom hd h ▸ hd
  · intro hc
    rw [hself c hc] at h
    exact List.mem_singleton.mp h ▸ hc

theorem isDigit_of_mem_upperChar {c d : Char} (h : d ∈ upperChar c) : d.isDigit = c.isDigit :=
  isDigit_of_mem (fun _ hx => (caseless_of_isDigit hx).upper)
    (fun hx hmem => (caseless_of_isDigit hx).of_upper hmem) h

theorem isDigit_of_mem_lowerChar {c d : Char} (h : d ∈ lowerChar c) : d.isDigit = c.isDigit :=
  isDigit_of_mem (fun _ hx => (caseless_of_isDigit hx).lower)
    (fun hx hmem => (caseless_of_isDigit hx).of_lower hmem) h

/-! ## Lower case -/

theorem lowerRuns_keepsLetters : ∀ r ∈ lowerRuns, r.keepsLetters = true := by
  have h : lowerRuns.all CaseRun.keepsLetters := by decide
  exact List.all_eq_true.mp h

theorem lowerRuns_ordered : ∀ r ∈ lowerRuns, r.first ≤ r.last := by
  have h : lowerRuns.all fun r => Nat.ble r.first r.last := by decide
  intro r hr
  exact Nat.le_of_ble_eq_true (List.all_eq_true.mp h r hr)

theorem lowerExpansions_head : ∀ e ∈ lowerExpansions, ∃ n rest, e.2 = n :: rest ∧
    isWord (Char.ofNat n) = true := by
  have h : lowerExpansions.all fun e => e.2.head?.any fun n => isWord (Char.ofNat n) := by
    decide
  intro e he
  have hhead := List.all_eq_true.mp h e he
  match hrest : e.2 with
  | [] => simp [hrest] at hhead
  | n :: rest => exact ⟨n, rest, rfl, by simpa [hrest] using hhead⟩

/-- The lower case of a letter starts with a letter. -/
theorem lowerChar_head {c : Char} (hword : isWord c = true) :
    ∃ d rest, lowerChar c = d :: rest ∧ isWord d = true := by
  rcases mapCase_cases lowerRuns lowerExpansions c with
    ⟨e, he, -, hmap⟩ | ⟨r, hr, k, hk, hc, hmap⟩ | hself
  · obtain ⟨n, rest, hn, hhead⟩ := lowerExpansions_head e he
    rw [hn, List.map_cons] at hmap
    exact ⟨Char.ofNat n, rest.map Char.ofNat, hmap, hhead⟩
  · by_cases hlost : c.toNat ∈ lostLetters
    · have hall : lostLetters.all fun n => lowerChar (Char.ofNat n) == [Char.ofNat n] := by
        decide
      have hsame := List.all_eq_true.mp hall c.toNat hlost
      rw [Char.ofNat_toNat, beq_iff_eq] at hsame
      exact ⟨c, [], hsame, hword⟩
    · have hkept := r.isWord_of_keepsLetters (lowerRuns_keepsLetters r hr)
        (lowerRuns_ordered r hr) hk hc hword hlost
      exact ⟨_, [], hmap, hkept⟩
  · exact ⟨c, [], hself, hword⟩

/-- The first word character in lower case is a digit exactly if the first one was. -/
theorem isDigit_head_lowerAfter {cs : List Char} (hwords : ∀ c ∈ cs, isWord c = true)
    (before : List Char) :
    ((lowerAfter before cs).filter isWord).head?.map Char.isDigit = cs.head?.map Char.isDigit := by
  cases cs with
  | nil => rfl
  | cons c after =>
    have hfirst : ∃ d rest, lowerAfter before (c :: after) = d :: rest ∧ isWord d = true ∧
        d.isDigit = c.isDigit := by
      by_cases hsigma : c = 'Σ'
      · subst hsigma
        refine ⟨lowerSigma before after, lowerAfter ('Σ' :: before) after, rfl, ?_⟩
        rcases lowerSigma_eq before after with h | h <;> rw [h] <;> decide
      · obtain ⟨d, rest, hlower, hd⟩ := lowerChar_head (hwords c List.mem_cons_self)
        refine ⟨d, rest ++ lowerAfter (c :: before) after, ?_, hd, ?_⟩
        · rw [lowerAfter, if_neg hsigma, hlower, List.cons_append]
        · exact isDigit_of_mem_lowerChar (hlower ▸ List.mem_cons_self)
    obtain ⟨d, rest, hlower, hd, hdigit⟩ := hfirst
    rw [hlower, List.filter_cons_of_pos hd, List.head?_cons, List.head?_cons, Option.map_some,
      Option.map_some, hdigit]

end SchemaGen.Text

namespace SchemaGen.Naming

set_option autoImplicit false
set_option maxRecDepth 20000

open SchemaGen.Text SchemaGen.Script

/-! ## First characters -/

theorem head?_flatMap_congr {α β γ : Type} {f g : α → List β} {p : β → γ} {items : List α}
    (h : ∀ a ∈ items, (f a).head?.map p = (g a).head?.map p) :
    (items.flatMap f).head?.map p = (items.flatMap g).head?.map p := by
  induction items with
  | nil => rfl
  | cons a rest ih =>
    rw [List.forall_mem_cons] at h
    rw [List.flatMap_cons, List.flatMap_cons, List.head?_append, List.head?_append, Option.map_or,
      Option.map_or, h.1, ih h.2]

/-- A word without a lost letter at its start. -/
def kept : List Char → List Char
  | [] => []
  | c :: rest => if c.toNat ∈ lostLetters then rest else c :: rest

/-- The characters of a name that its identifier shows, in the case of the name. -/
def shown (cs : List Char) : List Char :=
  if isSingleWord cs then cs else (pieces (fun c => !isWord c) cs).flatMap kept

theorem filter_upperChar_of_lost {c : Char} (h : c.toNat ∈ lostLetters) :
    (upperChar c).filter isWord = [] := by
  have hall : lostLetters.all fun n => ((upperChar (Char.ofNat n)).filter isWord).isEmpty := by
    decide
  have hnone := List.all_eq_true.mp hall c.toNat h
  rwa [Char.ofNat_toNat, List.isEmpty_iff] at hnone

theorem isDigit_head_capitalize {w : List Char} (hword : ∀ c ∈ w, isWord c = true) :
    ((capitalize w).filter isWord).head?.map Char.isDigit = (kept w).head?.map Char.isDigit := by
  cases w with
  | nil => rfl
  | cons c rest =>
    rw [List.forall_mem_cons] at hword
    rw [capitalize, List.filter_append, kept]
    by_cases hlost : c.toNat ∈ lostLetters
    · rw [if_pos hlost, filter_upperChar_of_lost hlost, List.nil_append, lower]
      exact isDigit_head_lowerAfter hword.2 []
    · obtain ⟨d, more, hupper, -⟩ := upperChar_head c
      have hd : isWord d = true := isWord_head_upperChar hword.1 hlost hupper
      have hdigit : d.isDigit = c.isDigit :=
        isDigit_of_mem_upperChar (hupper ▸ List.mem_cons_self)
      rw [if_neg hlost, hupper, List.filter_cons_of_pos hd, List.cons_append, List.head?_cons,
        List.head?_cons, Option.map_some, Option.map_some, hdigit]

/-- The identifier starts with a digit, or is empty, as what it shows of the name. -/
theorem isDigit_head_identifier (cs : List Char) :
    (identifierChars cs).head?.map Char.isDigit = (shown cs).head?.map Char.isDigit := by
  unfold identifierChars shown
  split
  · cases cs with
    | nil => rfl
    | cons c rest =>
      obtain ⟨d, more, hupper, -⟩ := upperChar_head c
      have hdigit : d.isDigit = c.isDigit :=
        isDigit_of_mem_upperChar (hupper ▸ List.mem_cons_self)
      rw [upperFirst, hupper, List.cons_append, List.head?_cons, List.head?_cons, Option.map_some,
        Option.map_some, hdigit]
  · rw [List.filter_flatMap]
    refine head?_flatMap_congr fun w hw => isDigit_head_capitalize fun c hc => ?_
    simpa using (exists_mem_pieces_iff.mp ⟨w, hw, hc⟩).2

/-! ## All characters -/

theorem caseless_verticalTilde : Caseless verticalTilde := by
  have hupper : clearOf upperRuns upperExpansions 0x2E2F 0x2E2F = true := by decide
  have hlower : clearOf lowerRuns lowerExpansions 0x2E2F 0x2E2F = true := by decide
  exact caseless_of_clearOf hupper hlower (by decide) (by decide) (by decide)

theorem mem_identifierChars_verticalTilde {cs : List Char} :
    verticalTilde ∈ identifierChars cs ↔ verticalTilde ∈ cs := by
  have hword : isWord verticalTilde = true := by decide
  rw [mem_identifierChars_iff caseless_verticalTilde, and_iff_left hword]

/-- The upper case of a letter can stand in a name of a script, marks and capitals that are no
letters included. -/
theorem isNamePart_of_mem_upperChar {c d : Char} (hword : isWord c = true)
    (hc : c ≠ verticalTilde) (h : d ∈ upperChar c) : isNamePart d = true := by
  have hall : (markedLetters ++ lostLetters).all fun n =>
      (upperChar (Char.ofNat n)).all isNamePart := by decide
  by_cases hspecial : c.toNat ∈ markedLetters ++ lostLetters
  · have hparts := List.all_eq_true.mp hall c.toNat hspecial
    rw [Char.ofNat_toNat] at hparts
    exact List.all_eq_true.mp hparts d h
  · rw [List.mem_append, not_or] at hspecial
    have hd : isWord d = true := isWord_of_mem_upperChar hword hspecial.1 hspecial.2 h
    refine isNamePart_of_isWord hd ?_
    rintro rfl
    exact hc (caseless_verticalTilde.of_upper h).symm

/-- All characters of an identifier can stand in a name of a script unless the name holds the one
letter that cannot. -/
theorem identifier_nameParts_iff (cs : List Char) :
    (∀ c ∈ identifierChars cs, isNamePart c = true) ↔ verticalTilde ∉ cs := by
  rw [← mem_identifierChars_verticalTilde]
  constructor
  · intro h hmem
    exact absurd (h _ hmem) (by rw [isNamePart_verticalTilde]; exact Bool.false_ne_true)
  · intro htilde d hd
    have hne : d ≠ verticalTilde := fun h => htilde (h ▸ hd)
    cases hsingle : isSingleWord cs with
    | false => exact isNamePart_of_isWord (isWord_of_mem_identifierChars hsingle d hd) hne
    | true =>
      obtain ⟨c, rest, rfl⟩ := List.exists_cons_of_ne_nil (isSingleWord_iff.mp hsingle).1
      have hword := (isSingleWord_iff.mp hsingle).2
      have htilde : verticalTilde ∉ c :: rest :=
        fun h => htilde (mem_identifierChars_verticalTilde.mpr h)
      rw [identifierChars_cons hsingle, List.mem_append] at hd
      rcases hd with hd | hd
      · refine isNamePart_of_mem_upperChar (hword c List.mem_cons_self) ?_ hd
        exact fun h => htilde (h ▸ List.mem_cons_self)
      · exact isNamePart_of_isWord (hword d (List.mem_cons_of_mem c hd)) hne

end SchemaGen.Naming
