import SchemaGen.Text.Casing
import SchemaGen.Text.Letters

/-! # Upper case

What the tables say of each of their rows holds of every character, as a character outside of them
maps to itself (`mapCase_cases`). The first character of an upper case is its own upper case
(`upperChar_head`). The upper case of a letter is made of letters but for two short lists: letters
that have no capital of their own and take a mark after one (`markedLetters`), and letters whose
capital is younger than the table of letters (`lostLetters`).
-/

namespace SchemaGen.Text

set_option autoImplicit false
set_option maxRecDepth 20000

/-! ## Rows of the tables -/

namespace CaseRun

def span (r : CaseRun) : Nat := r.last - r.first

/-- The code point at this distance from the first one is in the run. -/
def Offset (r : CaseRun) (k : Nat) : Prop := k ≤ r.span ∧ k % r.step = 0

/-- No code point that the run maps to is one that the other run maps. -/
def avoids (r q : CaseRun) : Bool :=
  Nat.blt q.last r.target || Nat.blt (r.target + r.span) q.first ||
    ((Nat.beq r.span 0 || Nat.beq r.step q.step) && !Nat.beq (r.target % q.step) (q.first % q.step))

/-- No code point that the run maps to has an upper case other than itself. -/
def clear (r : CaseRun) : Bool :=
  upperRuns.all r.avoids &&
    upperExpansions.all fun e => Nat.blt e.1 r.target || Nat.blt (r.target + r.span) e.1

theorem offset_of_map? {r : CaseRun} {n m : Nat} (h : r.map? n = some m) :
    ∃ k, r.Offset k ∧ n = r.first + k ∧ m = r.target + k := by
  unfold map? at h
  split at h
  · next hin =>
    simp only [Bool.and_eq_true, decide_eq_true_eq, beq_iff_eq] at hin
    obtain ⟨⟨hfirst, hlast⟩, hstep⟩ := hin
    have hspan : n - r.first ≤ r.span := by
      unfold span
      omega
    have hn : n = r.first + (n - r.first) := by omega
    exact ⟨n - r.first, ⟨hspan, hstep⟩, hn, (Option.some.inj h).symm⟩
  · cases h

theorem ne_of_avoids {r q : CaseRun} (h : r.avoids q = true) (hq : q.first ≤ q.last) {j k : Nat}
    (hk : r.Offset k) (hj : q.Offset j) : r.target + k ≠ q.first + j := by
  intro heq
  obtain ⟨hkspan, hkstep⟩ := hk
  obtain ⟨hjspan, hjstep⟩ := hj
  unfold span at hjspan
  simp only [avoids, Bool.or_eq_true, Bool.and_eq_true, Nat.blt_eq, Nat.beq_eq,
    Bool.not_eq_eq_eq_not, Bool.not_true] at h
  rcases h with (hbefore | hafter) | ⟨hstep, hresidue⟩
  · omega
  · omega
  · -- Both runs are met in steps of one size, or the first is a single code point.
    have hkmod : k % q.step = 0 := by
      rcases hstep with hzero | hstep
      · have hk0 : k = 0 := by omega
        rw [hk0, Nat.zero_mod]
      · rw [← hstep]
        exact hkstep
    have hmod : r.target % q.step = q.first % q.step := by
      have hr : (r.target + k) % q.step = r.target % q.step := by simp [Nat.add_mod, hkmod]
      have hf : (q.first + j) % q.step = q.first % q.step := by simp [Nat.add_mod, hjstep]
      rw [← hr, ← hf, heq]
    exact absurd hmod (Nat.ne_of_beq_eq_false hresidue)

end CaseRun

/-- A character is mapped by one of the expansions or of the runs, or else maps to itself. -/
theorem mapCase_cases (runs : List CaseRun) (expansions : List (Nat × List Nat)) (c : Char) :
    (∃ e ∈ expansions, e.1 = c.toNat ∧ mapCase runs expansions c = e.2.map Char.ofNat) ∨
    (∃ r ∈ runs, ∃ k, r.Offset k ∧ c.toNat = r.first + k ∧
      mapCase runs expansions c = [Char.ofNat (r.target + k)]) ∨
    mapCase runs expansions c = [c] := by
  unfold mapCase
  split
  · next several hl =>
    obtain ⟨l₁, l₂, rfl, -⟩ := List.lookup_eq_some_iff.mp hl
    exact .inl ⟨(c.toNat, several), by simp, rfl, rfl⟩
  · split
    · next n hf =>
      obtain ⟨r, hr, hn⟩ := List.exists_of_findSome?_eq_some hf
      obtain ⟨k, hk, hfirst, rfl⟩ := CaseRun.offset_of_map? hn
      exact .inr (.inl ⟨r, hr, k, hk, hfirst, rfl⟩)
    · exact .inr (.inr rfl)

/-! ## Capitals -/

theorem toNat_ofNat {n : Nat} (h : n.isValidChar) : (Char.ofNat n).toNat = n := by
  have hof : Char.ofNat n = Char.ofNatAux n h := dif_pos h
  rw [hof]
  rfl

theorem upperRuns_ordered : ∀ r ∈ upperRuns, r.first ≤ r.last := by
  have h : upperRuns.all fun r => Nat.ble r.first r.last := by decide
  intro r hr
  exact Nat.le_of_ble_eq_true (List.all_eq_true.mp h r hr)

theorem upperChar_of_clear {r : CaseRun} (hr : r.clear = true) {k : Nat} (hk : r.Offset k) :
    upperChar (Char.ofNat (r.target + k)) = [Char.ofNat (r.target + k)] := by
  simp only [CaseRun.clear, Bool.and_eq_true, List.all_eq_true] at hr
  obtain ⟨hruns, hexpansions⟩ := hr
  by_cases hv : (r.target + k).isValidChar
  · have hn := toNat_ofNat hv
    rcases mapCase_cases upperRuns upperExpansions (Char.ofNat (r.target + k)) with
      ⟨e, he, hfirst, -⟩ | ⟨q, hq, j, hj, hfirst, -⟩ | hself
    · have hspan := hk.1
      have hout := hexpansions e he
      rw [Bool.or_eq_true, Nat.blt_eq, Nat.blt_eq] at hout
      omega
    · have hne := CaseRun.ne_of_avoids (hruns q hq) (upperRuns_ordered q hq) hk hj
      exact absurd (hn.symm.trans hfirst) hne
    · exact hself
  · have hzero : Char.ofNat (r.target + k) = '\x00' := dif_neg hv
    rw [hzero]
    decide

theorem upperRuns_clear : ∀ r ∈ upperRuns, r.clear = true := by
  have h : upperRuns.all CaseRun.clear := by decide +kernel
  exact List.all_eq_true.mp h

/-- A code point as a run of its own. -/
def single (n : Nat) : CaseRun := ⟨n, n, 1, n⟩

theorem upperExpansions_clear : ∀ e ∈ upperExpansions, ∃ n rest, e.2 = n :: rest ∧
    (single n).clear = true := by
  have h : upperExpansions.all fun e => e.2.head?.any fun n => (single n).clear := by
    decide
  intro e he
  have hhead := List.all_eq_true.mp h e he
  match hrest : e.2 with
  | [] => simp [hrest] at hhead
  | n :: rest => exact ⟨n, rest, rfl, by simpa [hrest] using hhead⟩

/-- The first character of an upper case is its own upper case. -/
theorem upperChar_head (c : Char) : ∃ d rest, upperChar c = d :: rest ∧ upperChar d = [d] := by
  rcases mapCase_cases upperRuns upperExpansions c with
    ⟨e, he, -, hmap⟩ | ⟨r, hr, k, hk, -, hmap⟩ | hself
  · obtain ⟨n, rest, hn, hclear⟩ := upperExpansions_clear e he
    rw [hn, List.map_cons] at hmap
    exact ⟨Char.ofNat n, rest.map Char.ofNat, hmap, upperChar_of_clear hclear ⟨Nat.zero_le _, rfl⟩⟩
  · exact ⟨_, [], hmap, upperChar_of_clear (upperRuns_clear r hr) hk⟩
  · exact ⟨c, [], hself, hself⟩

/-! ## Letters -/

/-- Letters without a capital of their own: their upper case ends in marks. -/
def markedLetters : List Nat := [
  0x1F0, 0x390, 0x3B0, 0x1E96, 0x1E97, 0x1E98, 0x1E99, 0x1F50, 0x1F52, 0x1F54, 0x1F56, 0x1FB6,
  0x1FB7, 0x1FC6, 0x1FC7, 0x1FD2, 0x1FD3, 0x1FD6, 0x1FD7, 0x1FE2, 0x1FE3, 0x1FE4, 0x1FE6, 0x1FE7,
  0x1FF6, 0x1FF7]

/-- Letters whose capital is younger than the table of letters. -/
def lostLetters : List Nat := [0xA7D3, 0xA7D5]

/-- All code points of the range are letters. -/
def areLetters (first last : Nat) : Bool :=
  letterRanges.any fun a => Nat.ble a.1 first && Nat.ble last a.2

/-- No code point of the range is a letter. -/
def noLetters (first last : Nat) : Bool :=
  letterRanges.all fun a => Nat.blt last a.1 || Nat.blt a.2 first

theorem letterRanges_valid : ∀ a ∈ letterRanges, ∀ n, a.1 ≤ n → n ≤ a.2 → n.isValidChar := by
  have h : letterRanges.all fun a =>
      Nat.blt a.2 0xD800 || (Nat.blt 0xDFFF a.1 && Nat.blt a.2 0x110000) := by decide
  intro a ha n hfirst hlast
  have hrange := List.all_eq_true.mp h a ha
  simp only [Bool.or_eq_true, Bool.and_eq_true, Nat.blt_eq] at hrange
  unfold Nat.isValidChar
  omega

theorem isWord_of_areLetters {first last n : Nat} (h : areLetters first last = true)
    (hfirst : first ≤ n) (hlast : n ≤ last) : isWord (Char.ofNat n) = true := by
  obtain ⟨a, ha, hin⟩ := List.any_eq_true.mp h
  simp only [Bool.and_eq_true, Nat.ble_eq] at hin
  have hn := toNat_ofNat (letterRanges_valid a ha n (by omega) (by omega))
  have hletter : isLetter (Char.ofNat n) = true :=
    inRanges_iff.mpr ⟨a, ha, by omega, by omega⟩
  rw [isWord, hletter, Bool.or_true]

theorem areLetters_or_isDigit {c : Char} (h : isWord c = true) :
    areLetters c.toNat c.toNat = true ∨ c.toNat ≤ 0x39 := by
  have hletters : ∀ a ∈ letterRanges, a.1 ≤ c.toNat → c.toNat ≤ a.2 →
      areLetters c.toNat c.toNat = true := by
    intro a ha hfirst hlast
    refine List.any_eq_true.mpr ⟨a, ha, ?_⟩
    rw [Bool.and_eq_true, Nat.ble_eq, Nat.ble_eq]
    exact ⟨hfirst, hlast⟩
  rcases Bool.or_eq_true _ _ ▸ h with halnum | hletter
  · change (decide ('A'.val ≤ c.val ∧ c.val ≤ 'Z'.val) ||
      (decide ('a'.val ≤ c.val) && decide (c.val ≤ 'z'.val)) ||
      (decide ('0'.val ≤ c.val) && decide (c.val ≤ '9'.val))) = true at halnum
    simp only [Bool.or_eq_true, Bool.and_eq_true, decide_eq_true_eq, UInt32.le_iff_toNat_le]
      at halnum
    change ((65 ≤ c.toNat ∧ c.toNat ≤ 90) ∨ (97 ≤ c.toNat ∧ c.toNat ≤ 122)) ∨
      (48 ≤ c.toNat ∧ c.toNat ≤ 57) at halnum
    rcases halnum with (hupper | hlower) | hdigit
    · exact .inl (hletters (0x41, 0x5A) (List.mem_cons_self ..) hupper.1 hupper.2)
    · have hmem : (0x61, 0x7A) ∈ letterRanges := List.mem_cons_of_mem _ (List.mem_cons_self ..)
      exact .inl (hletters _ hmem hlower.1 hlower.2)
    · exact .inr hdigit.2
  · obtain ⟨a, ha, hfirst, hlast⟩ := inRanges_iff.mp hletter
    exact .inl (hletters a ha hfirst hlast)

theorem not_isWord_of_noLetters {first last : Nat} {c : Char} (h : noLetters first last = true)
    (hdigit : 0x39 < first) (hfirst : first ≤ c.toNat) (hlast : c.toNat ≤ last) :
    isWord c ≠ true := by
  intro hword
  rcases areLetters_or_isDigit hword with hletter | hlow
  · obtain ⟨a, ha, hin⟩ := List.any_eq_true.mp hletter
    have hout := List.all_eq_true.mp h a ha
    simp only [Bool.and_eq_true, Nat.ble_eq] at hin
    simp only [Bool.or_eq_true, Nat.blt_eq] at hout
    omega
  · omega

/-- The run maps no letters, or maps to letters, or maps a single letter that is lost. -/
def CaseRun.keepsLetters (r : CaseRun) : Bool :=
  areLetters r.target (r.target + r.span) || (Nat.blt 0x39 r.first && noLetters r.first r.last) ||
    (Nat.beq r.span 0 && lostLetters.contains r.first) ||
    (List.range (r.span + 1)).all fun k =>
      !Nat.beq (k % r.step) 0 || areLetters (r.target + k) (r.target + k)

theorem upperRuns_keepsLetters : ∀ r ∈ upperRuns, r.keepsLetters = true := by
  have h : upperRuns.all CaseRun.keepsLetters := by decide
  exact List.all_eq_true.mp h

theorem CaseRun.isWord_of_keepsLetters {r : CaseRun} (h : r.keepsLetters = true)
    (hordered : r.first ≤ r.last) {k : Nat} (hk : r.Offset k) {c : Char}
    (hc : c.toNat = r.first + k) (hword : isWord c = true) (hlost : c.toNat ∉ lostLetters) :
    isWord (Char.ofNat (r.target + k)) = true := by
  obtain ⟨hspan, hstep⟩ := hk
  have hlast : c.toNat ≤ r.last := by
    unfold span at hspan
    omega
  simp only [keepsLetters, Bool.or_eq_true, Bool.and_eq_true, Nat.blt_eq, Nat.beq_eq,
    List.contains_eq_mem, decide_eq_true_eq] at h
  rcases h with ((hall | ⟨hdigit, hnone⟩) | ⟨hsingle, hmem⟩) | heach
  · exact isWord_of_areLetters hall (by omega) (by omega)
  · exact absurd hword (not_isWord_of_noLetters hnone hdigit (by omega) hlast)
  · have hfirst : c.toNat = r.first := by omega
    exact absurd (hfirst ▸ hmem) hlost
  · have hat := List.all_eq_true.mp heach k (List.mem_range.mpr (by omega))
    rw [Bool.or_eq_true, hstep] at hat
    rcases hat with hfalse | hat
    · cases hfalse
    · exact isWord_of_areLetters hat (Nat.le_refl _) (Nat.le_refl _)

theorem isWord_of_mem_upperExpansions : ∀ e ∈ upperExpansions, e.1 ∉ markedLetters →
    ∀ n ∈ e.2, isWord (Char.ofNat n) = true := by
  have h : upperExpansions.all fun e =>
      markedLetters.contains e.1 || e.2.all fun n => areLetters n n := by decide
  intro e he hmarked n hn
  have heach := List.all_eq_true.mp h e he
  rw [Bool.or_eq_true, List.contains_eq_mem, decide_eq_true_eq] at heach
  have hletters := List.all_eq_true.mp (heach.resolve_left hmarked) n hn
  exact isWord_of_areLetters hletters (Nat.le_refl n) (Nat.le_refl n)

/-- The upper case of a letter is made of letters, unless the letter is marked or lost. -/
theorem isWord_of_mem_upperChar {c d : Char} (hword : isWord c = true)
    (hmarked : c.toNat ∉ markedLetters) (hlost : c.toNat ∉ lostLetters) (h : d ∈ upperChar c) :
    isWord d = true := by
  rcases mapCase_cases upperRuns upperExpansions c with
    ⟨e, he, hfirst, hmap⟩ | ⟨r, hr, k, hk, hc, hmap⟩ | hself
  · rw [upperChar, hmap] at h
    obtain ⟨n, hn, rfl⟩ := List.mem_map.mp h
    exact isWord_of_mem_upperExpansions e he (hfirst ▸ hmarked) n hn
  · rw [upperChar, hmap] at h
    rw [List.mem_singleton.mp h]
    have hkeeps := upperRuns_keepsLetters r hr
    exact r.isWord_of_keepsLetters hkeeps (upperRuns_ordered r hr) hk hc hword hlost
  · rw [upperChar, hself] at h
    rw [List.mem_singleton.mp h]
    exact hword

/-- The upper case of a marked or lost letter holds what is no letter. -/
theorem exists_mem_upperChar_not_isWord {c : Char} (h : c.toNat ∈ markedLetters ++ lostLetters) :
    ∃ d ∈ upperChar c, isWord d = false := by
  have hall : (markedLetters ++ lostLetters).all fun n =>
      (upperChar (Char.ofNat n)).any fun d => !isWord d := by decide
  obtain ⟨d, hd, hword⟩ := List.any_eq_true.mp (List.all_eq_true.mp hall c.toNat h)
  rw [Char.ofNat_toNat] at hd
  exact ⟨d, hd, by simpa using hword⟩

/-- The upper case of a letter starts with a letter, unless the letter is lost. -/
theorem isWord_head_upperChar {c d : Char} {rest : List Char} (hword : isWord c = true)
    (hlost : c.toNat ∉ lostLetters) (h : upperChar c = d :: rest) : isWord d = true := by
  by_cases hmarked : c.toNat ∈ markedLetters
  · have hall : markedLetters.all fun n => (upperChar (Char.ofNat n)).head?.any isWord := by
      decide
    have hhead := List.all_eq_true.mp hall c.toNat hmarked
    rw [Char.ofNat_toNat, h] at hhead
    exact hhead
  · exact isWord_of_mem_upperChar hword hmarked hlost (h ▸ List.mem_cons_self ..)

end SchemaGen.Text
