import Mathlib.Data.String.Basic
import Spreadsheet.Text.Casing

/-!
# Texts in capitals

The parts of a text are put in capitals one by one. A text of ASCII characters is put in capitals
character by character, and its size in bytes is the number of its characters.
-/

namespace Spreadsheet.Text

variable {cs : List Char}

theorem toUpper_of_not_small {c : Char} (h : ¬ (97 ≤ c.toNat ∧ c.toNat ≤ 122)) : c.toUpper = c :=
  dif_neg h

theorem upper_append (cs ds : List Char) : upper (cs ++ ds) = upper cs ++ upper ds :=
  List.flatMap_append

theorem upper_cons_of_ascii {c : Char} (h : c.toNat < 0x80) (cs : List Char) :
    upper (c :: cs) = c.toUpper :: upper cs := by
  have hc : upperChar c = [c.toUpper] := if_pos h
  rw [upper, List.flatMap_cons, hc]
  rfl

theorem upper_intercalate (texts : List (List Char)) :
    upper ([','].intercalate texts) = [','].intercalate (texts.map upper) := by
  induction texts with
  | nil => rfl
  | cons text texts ih =>
    cases texts with
    | nil => simp
    | cons text' texts =>
      have hcomma : upper [','] = [','] := rfl
      rw [List.intercalate_cons_cons, upper_append, upper_append, ih, hcomma]
      simp only [List.map_cons, List.intercalate_cons_cons]

/-! ## ASCII texts -/

theorem upper_of_ascii (h : ∀ c ∈ cs, c.toNat < 0x80) : upper cs = upperAscii cs := by
  rw [upperAscii, List.map_eq_flatMap]
  exact List.flatMap_congr fun c hc => if_pos (h c hc)

theorem upperAscii_cons (c : Char) (cs : List Char) :
    upperAscii (c :: cs) = c.toUpper :: upperAscii cs := rfl

theorem upperAscii_append (cs ds : List Char) :
    upperAscii (cs ++ ds) = upperAscii cs ++ upperAscii ds := List.map_append

theorem upperAscii_eq_self (h : ∀ c ∈ cs, c.toUpper = c) : upperAscii cs = cs :=
  (List.map_congr_left h).trans (List.map_id' cs)

theorem upper_eq_self (h : ∀ c ∈ cs, c.toNat < 0x80 ∧ c.toUpper = c) : upper cs = cs :=
  (upper_of_ascii fun c hc => (h c hc).1).trans (upperAscii_eq_self fun c hc => (h c hc).2)

theorem length_upperAscii (cs : List Char) : (upperAscii cs).length = cs.length := List.length_map _

theorem utf8ByteSize_of_ascii (h : ∀ c ∈ cs, c.toNat < 0x80) :
    (String.ofList cs).utf8ByteSize = cs.length := by
  rw [String.utf8ByteSize_ofList]
  induction cs with
  | nil => rfl
  | cons c cs ih =>
    have hc : c.toNat < 0x80 := h c List.mem_cons_self
    have hsize : c.utf8Size = 1 := Char.utf8Size_eq_one_iff.mpr
      (UInt32.le_iff_toNat_le.mpr (Nat.le_of_lt_succ hc))
    rw [String.utf8Len_cons, ih fun d hd => h d (List.mem_cons_of_mem c hd), hsize,
      List.length_cons]

end Spreadsheet.Text
