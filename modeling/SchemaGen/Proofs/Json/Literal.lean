import SchemaGen.Json.Writer
import SchemaGen.Proofs.Text.Lines

/-! # Text literals

A list of texts is written without a control, whatever characters the texts hold, and so on a single
line.
-/

namespace SchemaGen.Json

set_option autoImplicit false

open SchemaGen.Text

/-- No character is a control. -/
def NoControls (cs : List Char) : Prop := ∀ c ∈ cs, 0x20 ≤ c.toNat

instance (cs : List Char) : Decidable (NoControls cs) := List.decidableBAll _ cs

theorem NoControls.append {cs ds : List Char} (hcs : NoControls cs) (hds : NoControls ds) :
    NoControls (cs ++ ds) := List.forall_mem_append.mpr ⟨hcs, hds⟩

theorem NoControls.cons {c : Char} {cs : List Char} (hc : 0x20 ≤ c.toNat) (hcs : NoControls cs) :
    NoControls (c :: cs) := List.forall_mem_cons.mpr ⟨hc, hcs⟩

theorem NoControls.oneLine {text : String} (h : NoControls text.toList) : OneLine text :=
  fun hmem => absurd (h '\n' hmem) (by decide)

theorem noControls_escapeControl {c : Char} (h : c.toNat < 0x20) : NoControls (escapeControl c) := by
  have hdigits : ∀ n < 0x20, NoControls (Nat.toDigits 16 n) := by decide
  refine NoControls.append (NoControls.append (by decide) ?_) (hdigits _ h)
  intro d hd
  rw [List.eq_of_mem_replicate hd]
  decide

theorem noControls_writeChar (c : Char) : NoControls (writeChar c) := by
  have hself : ¬ c.toNat < 0x20 → NoControls [c] := fun h =>
    NoControls.cons (Nat.not_lt.mp h) (by decide)
  unfold writeChar
  repeat' split
  all_goals first | decide | exact noControls_escapeControl ‹_› | exact hself ‹_›

theorem noControls_writeString (s : String) : NoControls (writeString s) := by
  have hchars : NoControls (s.toList.flatMap writeChar) := by
    intro d hd
    obtain ⟨c, -, hmem⟩ := List.mem_flatMap.mp hd
    exact noControls_writeChar c d hmem
  exact (NoControls.cons (by decide) hchars).append (by decide)

theorem noControls_writeItems (texts : List String) :
    NoControls (writeItems (texts.map .string)) := by
  induction texts with
  | nil => exact nofun
  | cons s rest ih =>
    cases rest with
    | nil => exact noControls_writeString s
    | cons t rest => exact (noControls_writeString s).append (NoControls.cons (by decide) ih)

theorem ofTexts_noControls (texts : List String) : NoControls (ofTexts texts).compact.toList := by
  rw [compact, String.toList_ofList]
  exact (NoControls.cons (by decide) (noControls_writeItems texts)).append (by decide)

theorem ofTexts_oneLine (texts : List String) : OneLine (ofTexts texts).compact :=
  (ofTexts_noControls texts).oneLine

end SchemaGen.Json
