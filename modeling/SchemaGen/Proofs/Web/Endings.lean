import Mathlib.Data.List.DropRight
import SchemaGen.Proofs.Traversal
import SchemaGen.Web.Exchange

/-! # The ends of addresses

What follows a `?` at the end of an address still stands at the end of what the request asks for,
in the query or in the fragment (`suffix_ending_of_prepare`), provided that it has only characters
that stand for themselves everywhere. So addresses that end differently there make different
requests.
-/

namespace SchemaGen.Web

set_option autoImplicit false

open SchemaGen.Text

variable {tail cs : List Char}

/-- A character that separates no parts of an address and is encoded in none. -/
def isInert (c : Char) : Bool := c.isAlphanum || c == '=' || c == '&'

theorem ne_of_isInert {c d : Char} (hc : isInert c = true) (hd : isInert d = false) : c ≠ d := by
  rintro rfl
  exact Bool.noConfusion (hc.symm.trans hd)

theorem isVisible_of_isInert {c : Char} (h : isInert c = true) : isVisible c = true := by
  delta isInert Char.isAlphanum Char.isAlpha Char.isUpper Char.isLower Char.isDigit at h
  simp only [Bool.or_eq_true, Bool.and_eq_true, decide_eq_true_eq, beq_iff_eq, ge_iff_le,
    UInt32.le_iff_toNat_le] at h
  simp only [isVisible, Bool.and_eq_true, decide_eq_true_eq]
  have hval : c.toNat = c.val.toNat := rfl
  rcases h with (((hupper | hlower) | hdigit) | rfl) | rfl
  · simp at hupper
    omega
  · simp at hlower
    omega
  · simp at hdigit
    omega
  · decide
  · decide

/-- What is encoded here or there is none of the inert characters. -/
theorem contains_of_isInert {c : Char} {encoded : List Char} (h : isInert c = true)
    (hencoded : encoded.all (fun d => !isInert d) = true) : encoded.contains c = false := by
  refine Bool.eq_false_iff.mpr fun hmem => ?_
  have hc := List.all_eq_true.mp hencoded c (List.contains_iff_mem.mp hmem)
  simp [h] at hc

theorem keptInQuery_of_isInert {c : Char} (h : isInert c = true) : keptInQuery c = true := by
  rw [keptInQuery, isVisible_of_isInert h, contains_of_isInert h (by decide)]
  rfl

theorem keptInWebQuery_of_isInert {c : Char} (h : isInert c = true) :
    keptInWebQuery c = true := by
  rw [keptInWebQuery, keptInQuery_of_isInert h, bne_iff_ne.mpr (ne_of_isInert h (by decide))]
  rfl

theorem keptInFragment_of_isInert {c : Char} (h : isInert c = true) :
    keptInFragment c = true := by
  rw [keptInFragment, isVisible_of_isInert h, contains_of_isInert h (by decide)]
  rfl

/-! ## Suffixes of what is cut -/

theorem suffix_of_cons {c d : Char} (h : c :: tail <:+ d :: cs) (hne : d ≠ c) :
    c :: tail <:+ cs := by
  rcases List.suffix_cons_iff.mp h with heq | hrest
  · exact absurd (List.cons.inj heq).1.symm hne
  · exact hrest

theorem suffix_dropWhile {p : Char → Bool} {c : Char} (h : c :: tail <:+ cs) (hc : p c = false) :
    c :: tail <:+ cs.dropWhile p := by
  induction cs with
  | nil => exact h
  | cons d cs ih =>
    rcases List.suffix_cons_iff.mp h with heq | hrest
    · obtain ⟨rfl, rfl⟩ := List.cons.inj heq
      have hkept : (c :: tail).dropWhile p = c :: tail := List.dropWhile_cons_of_neg (by simp [hc])
      exact hkept.symm ▸ h
    · by_cases hd : p d = true
      · rw [List.dropWhile_cons_of_pos hd]
        exact ih hrest
      · rw [List.dropWhile_cons_of_neg hd]
        exact h

theorem cutAt_of_all {sep : Char → Bool} (h : ∀ c ∈ cs, sep c = false) :
    cutAt sep cs = (cs, none) := by
  induction cs with
  | nil => rfl
  | cons c cs ih =>
    have hc := h c (List.mem_cons_self ..)
    simp [cutAt, hc, ih fun d hd => h d (List.mem_cons_of_mem _ hd)]

/-- A text without separators at the end is at the end of what follows the first separator, unless
there is none. -/
theorem suffix_cutAt {sep : Char → Bool} (h : tail <:+ cs) (htail : ∀ c ∈ tail, sep c = false) :
    cutAt sep cs = (cs, none) ∨ ∃ after, (cutAt sep cs).2 = some after ∧ tail <:+ after := by
  induction cs with
  | nil => exact .inl rfl
  | cons d cs ih =>
    rcases List.suffix_cons_iff.mp h with rfl | hrest
    · exact .inl (cutAt_of_all htail)
    · unfold cutAt
      split
      · exact .inr ⟨cs, rfl, hrest⟩
      · rcases ih hrest with hnone | ⟨after, hafter, hsuffix⟩
        · exact .inl (by rw [hnone])
        · exact .inr ⟨after, hafter, hsuffix⟩

theorem not_mem_of_cutAt {sep : Char → Bool} {before : List Char}
    (h : cutAt sep cs = (before, none)) : ∀ c ∈ cs, sep c = false := by
  induction cs generalizing before with
  | nil => simp
  | cons d cs ih =>
    unfold cutAt at h
    split at h
    · cases h
    · next hd =>
      cases hcut : cutAt sep cs with
      | mk rest after =>
        rw [hcut] at h
        cases h
        exact List.forall_mem_cons.mpr ⟨Bool.eq_false_iff.mpr hd, ih hcut⟩

theorem suffix_cutAt_of_sep {sep : Char → Bool} {c : Char} (h : c :: tail <:+ cs)
    (hc : sep c = true) (htail : ∀ d ∈ tail, sep d = false) :
    ∃ after, (cutAt sep cs).2 = some after ∧ tail <:+ after := by
  rcases suffix_cutAt ((List.suffix_cons c tail).trans h) htail with hnone | hsome
  · have hmem : c ∈ cs := h.subset (List.mem_cons_self ..)
    exact absurd (not_mem_of_cutAt hnone c hmem) (by simp [hc])
  · exact hsome

theorem suffix_percentEncode {keep : Char → Bool} (h : tail <:+ cs)
    (htail : ∀ c ∈ tail, keep c = true) : tail <:+ percentEncode keep cs := by
  obtain ⟨front, rfl⟩ := h
  have hkept : percentEncode keep tail = tail := by
    induction tail with
    | nil => rfl
    | cons c tail ih =>
      have hc := htail c (List.mem_cons_self ..)
      have hrest := ih fun d hd => htail d (List.mem_cons_of_mem _ hd)
      rw [percentEncode, List.flatMap_cons, encodeChar, if_pos hc, ← percentEncode, hrest]
      rfl
  rw [percentEncode, List.flatMap_append, ← percentEncode, ← percentEncode, hkept]
  exact List.suffix_append ..

theorem rdropWhile_of_suffix {p : Char → Bool} (h : tail <:+ cs) (hne : tail ≠ [])
    (htail : ∀ c ∈ tail, p c = false) : cs.rdropWhile p = cs := by
  refine List.rdropWhile_eq_self_iff.mpr fun hcs => ?_
  have hlast : cs.getLast hcs ∈ tail := h.getLast hne ▸ List.getLast_mem hne
  simp [htail _ hlast]

theorem suffix_clean {c : Char} (h : c :: tail <:+ cs)
    (hvisible : ∀ d ∈ c :: tail, 0x20 < d.toNat) : c :: tail <:+ Url.clean cs := by
  have hedge : ∀ d ∈ c :: tail, decide (d.toNat ≤ 0x20) = false := fun d hd =>
    decide_eq_false (by have := hvisible d hd; omega)
  have hkept : (c :: tail).filter (fun d => d != '\t' && d != '\n' && d != '\r') = c :: tail := by
    refine List.filter_eq_self.mpr fun d hd => ?_
    have hd := hvisible d hd
    simp only [Bool.and_eq_true, bne_iff_ne]
    refine ⟨⟨?_, ?_⟩, ?_⟩ <;> rintro rfl <;> simp at hd
  have hfront := suffix_dropWhile (p := fun d => decide (d.toNat ≤ 0x20)) h
    (hedge c (List.mem_cons_self ..))
  have hback := rdropWhile_of_suffix hfront (List.cons_ne_nil c tail) hedge
  change _ <:+ List.filter _ (List.rdropWhile _ _)
  rw [hback]
  obtain ⟨front, hsplit⟩ := hfront
  rw [← hsplit, List.filter_append, hkept]
  exact List.suffix_append ..

/-! ## What is asked for -/

namespace Url

/-- What stands at the end of an address. -/
def ending (u : Url) : List Char := ((u.fragment.orElse fun _ => u.query).getD "").toList

section Reading

variable {scheme : String} {u : Url}

theorem suffix_ending_assemble {authority : Option Authority} {path : List Char → List Char}
    (h : '?' :: tail <:+ cs) (htail : ∀ c ∈ tail, isInert c = true) :
    tail <:+ (assemble scheme authority path cs).ending := by
  have hne : ∀ d, isInert d = false → ∀ c ∈ tail, (c == d) = false := fun d hd c hc =>
    beq_false_of_ne (ne_of_isInert (htail c hc) hd)
  have hhash : ∀ c ∈ '?' :: tail, (c == '#') = false :=
    List.forall_mem_cons.mpr ⟨by decide, hne '#' (by decide)⟩
  rcases suffix_cutAt h hhash with hnone | ⟨after, hafter, hsuffix⟩
  · obtain ⟨after, hafter, hsuffix⟩ := suffix_cutAt_of_sep h rfl (hne '?' (by decide))
    simp only [ending, assemble, hnone, hafter, Option.map_none, Option.map_some,
      Option.orElse_none, Option.getD_some, String.toList_ofList]
    refine suffix_percentEncode hsuffix fun c hc => ?_
    split
    · exact keptInQuery_of_isInert (htail c hc)
    · exact keptInWebQuery_of_isInert (htail c hc)
  · simp only [ending, assemble, hafter, Option.map_some, Option.orElse_some, Option.getD_some,
      String.toList_ofList]
    exact suffix_percentEncode ((List.suffix_cons ..).trans hsuffix) fun c hc =>
      keptInFragment_of_isInert (htail c hc)

theorem suffix_splitScheme {rest : List Char} (hsplit : splitScheme cs = some (scheme, rest))
    (h : tail <:+ cs) (htail : ∀ c ∈ tail, (c == ':') = false) : tail <:+ rest := by
  unfold splitScheme at hsplit
  split at hsplit
  · next c before after hcut =>
    split at hsplit
    · cases hsplit
      rcases suffix_cutAt h htail with hnone | ⟨found, hfound, hsuffix⟩
      · cases hcut.symm.trans hnone
      · rw [hcut] at hfound
        cases hfound
        exact hsuffix
    · cases hsplit
  · cases hsplit

theorem suffix_ending_readServer (hread : readServer scheme cs = .ok u) (h : '?' :: tail <:+ cs)
    (htail : ∀ c ∈ tail, isInert c = true) : tail <:+ u.ending := by
  unfold readServer at hread
  obtain ⟨⟨authority, rest⟩, -, hassemble⟩ := bind_eq_ok_iff.mp hread
  cases hassemble
  refine suffix_ending_assemble (List.suffix_append_of_suffix ?_) htail
  exact suffix_dropWhile h (by simp [SchemeKind.endsHost])

theorem suffix_ending_readFileServer (hread : readFileServer scheme cs = .ok u)
    (h : '?' :: tail <:+ cs) (htail : ∀ c ∈ tail, isInert c = true) : tail <:+ u.ending := by
  unfold readFileServer at hread
  obtain ⟨⟨host, isApart⟩, -, hassemble⟩ := bind_eq_ok_iff.mp hread
  cases hassemble
  refine suffix_ending_assemble ?_ htail
  split
  · exact suffix_dropWhile h (by decide)
  · rw [List.takeWhile_append_dropWhile]
    exact h

theorem suffix_ending_readFile (hread : readFile scheme cs = .ok u) (h : '?' :: tail <:+ cs)
    (htail : ∀ c ∈ tail, isInert c = true) : tail <:+ u.ending := by
  unfold readFile at hread
  split at hread
  · next c d rest =>
    split at hread
    · next hslashes =>
      obtain ⟨hc, hd⟩ := Bool.and_eq_true_iff.mp hslashes
      have hc' : c ≠ '?' := fun heq => by simp [heq, SchemeKind.isSlash] at hc
      have hd' : d ≠ '?' := fun heq => by simp [heq, SchemeKind.isSlash] at hd
      exact suffix_ending_readFileServer hread (suffix_of_cons (suffix_of_cons h hc') hd') htail
    · cases hread
      exact suffix_ending_assemble h htail
  · cases hread
    exact suffix_ending_assemble h htail

theorem suffix_ending_of_parse {text : String} (hparse : parse text = .ok u)
    (h : '?' :: tail <:+ text.toList) (htail : ∀ c ∈ tail, isInert c = true) :
    tail <:+ u.ending := by
  have hvisible : ∀ c ∈ '?' :: tail, 0x20 < c.toNat := by
    refine List.forall_mem_cons.mpr ⟨by decide, fun c hc => ?_⟩
    have hc := isVisible_of_isInert (htail c hc)
    simp only [isVisible, Bool.and_eq_true, decide_eq_true_eq] at hc
    exact hc.1
  have hcolon : ∀ c ∈ '?' :: tail, (c == ':') = false :=
    List.forall_mem_cons.mpr ⟨by decide, fun c hc =>
      beq_false_of_ne (ne_of_isInert (htail c hc) (by decide))⟩
  unfold parse at hparse
  split at hparse
  · cases hparse
  · next scheme rest hsplit =>
    have hrest : '?' :: tail <:+ rest := suffix_splitScheme hsplit (suffix_clean h hvisible) hcolon
    split at hparse
    · exact suffix_ending_readServer hparse (suffix_dropWhile hrest (by decide)) htail
    · exact suffix_ending_readFile hparse hrest htail
    · refine suffix_ending_readServer hparse ?_ htail
      exact suffix_of_cons (suffix_of_cons hrest (by decide)) (by decide)
    · cases hparse
      unfold readLocal
      split <;> exact suffix_ending_assemble hrest htail

end Reading

end Url

theorem ending_extract (u : Url) : (Credentials.extract u).2.ending = u.ending := by
  unfold Credentials.extract
  split
  · rfl
  · dsimp only
    split
    · rfl
    · split <;> rfl

theorem parts_of_prepare {method : Method} {address : String} {authorization : Option String}
    {body : String} {r : Request} (h : prepare method address authorization body = .ok r) :
    r.method = method ∧ r.body = body ∧
      ∃ whole, Url.parse address = .ok whole ∧ r.url = (Credentials.extract whole).2 := by
  obtain ⟨whole, hwhole, hrest⟩ := bind_eq_ok_iff.mp h
  -- What is still checked leaves the parts as they are.
  dsimp only at hrest
  split at hrest
  · cases hrest
  split at hrest
  · cases hrest
  split at hrest
  · cases hrest
  split at hrest
  · cases hrest
  cases hrest
  exact ⟨rfl, rfl, whole, mapError_eq_ok_iff.mp hwhole, rfl⟩

/-- The end of an address stays where the request is made for it. -/
theorem suffix_ending_of_prepare {method : Method} {address : String}
    {authorization : Option String} {body : String} {r : Request}
    (hprepare : prepare method address authorization body = .ok r)
    (h : '?' :: tail <:+ address.toList) (htail : ∀ c ∈ tail, isInert c = true) :
    tail <:+ r.url.ending := by
  obtain ⟨-, -, whole, hwhole, hurl⟩ := parts_of_prepare hprepare
  rw [hurl, ending_extract]
  exact Url.suffix_ending_of_parse hwhole h htail

end SchemaGen.Web
