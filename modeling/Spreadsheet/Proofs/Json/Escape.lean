import Spreadsheet.Json.Token

/-!
# Strings in JSON

Whatever its characters, a text reads back from what is written for it between quotes
(`unescape?_escape`), and the closing quote is found where it stands (`scanString?_escape`).
-/

namespace Spreadsheet.Json

/-! ## Characters -/

/-- What is written for a character: itself, a letter behind a backslash, or its code behind a
backslash if that is below 32. -/
inductive EscapeCase (c : Char) : List Char → Prop where
  | plain (quote : c ≠ '"') (backslash : c ≠ '\\') (control : ¬ c.toNat < 0x20) : EscapeCase c [c]
  | letter {l : Char} (hl : l ≠ 'u') (h : escapedChar? l = some c) : EscapeCase c ['\\', l]
  | code {x y : Char} (hc : c.toNat < 0x20) (h : codeUnit? '0' '0' x y = some c.toNat) :
      EscapeCase c ['\\', 'u', '0', '0', x, y]

theorem fourHexDigits_of_lt : ∀ n < 0x20,
    fourHexDigits n = ['0', '0', Nat.digitChar (n / 16), Nat.digitChar (n % 16)] ∧
      codeUnit? '0' '0' (Nat.digitChar (n / 16)) (Nat.digitChar (n % 16)) = some n := by
  decide

theorem escapeCase (c : Char) : EscapeCase c (escapeChar c) := by
  unfold escapeChar
  split
  case h_8 h₁ h₂ h₃ h₄ h₅ h₆ h₇ =>
    by_cases h : c.toNat < 0x20
    · obtain ⟨hd, hu⟩ := fourHexDigits_of_lt c.toNat h
      rw [if_pos h, hd]
      exact .code h hu
    · rw [if_neg h]
      exact .plain h₁ h₂ h
  all_goals exact .letter (by decide) (by decide)

/-! ## Reading back -/

/-- What is no code cannot be read. -/
theorem unescape?_eq_none {a b c d : Char} (h : codeUnit? a b c d = none) (rest : List Char) :
    unescape? ('\\' :: 'u' :: a :: b :: c :: d :: rest) = none := by
  by_cases hr : ∃ e f g k rest', rest = '\\' :: 'u' :: e :: f :: g :: k :: rest'
  · obtain ⟨e, f, g, k, rest', rfl⟩ := hr
    rw [unescape?.eq_1, h]
  · rw [unescape?.eq_2 _ _ _ _ _ fun e f g k rest' he => hr ⟨e, f, g, k, rest', he⟩, h]

/-- A code below 32 is no half of a surrogate pair, so what follows it is read on its own. -/
theorem unescape?_code {x y : Char} {n : Nat} (h : codeUnit? '0' '0' x y = some n)
    (hn : n < 0x20) (rest : List Char) :
    unescape? ('\\' :: 'u' :: '0' :: '0' :: x :: y :: rest) =
      (unescape? rest).map (Char.ofNat n :: ·) := by
  have hv : n.isValidChar := .inl (by omega)
  have hj : ∀ low, joinSurrogates? n low = none := fun low => if_neg (by omega)
  by_cases hr : ∃ e f g k rest', rest = '\\' :: 'u' :: e :: f :: g :: k :: rest'
  · obtain ⟨e, f, g, k, rest', rfl⟩ := hr
    rw [unescape?.eq_1, h]
    cases hu : codeUnit? e f g k with
    | some next => simp only [hj, if_pos hv]
    | none =>
      rw [unescape?_eq_none hu]
      rfl
  · rw [unescape?.eq_2 _ _ _ _ _ fun e f g k rest' he => hr ⟨e, f, g, k, rest', he⟩, h]
    simp only [if_pos hv]

theorem unescape?_append (c : Char) (rest : List Char) :
    unescape? (escapeChar c ++ rest) = (unescape? rest).map (c :: ·) := by
  have h := escapeCase c
  generalize escapeChar c = cs at h ⊢
  cases h with
  | plain hq hb hc =>
    rw [List.singleton_append, unescape?.eq_4 c rest (fun _ _ _ _ _ _ _ _ _ h _ => hb h)
      (fun _ _ _ _ _ h _ => hb h) (fun _ _ h _ => hb h), if_neg hb]
  | @letter l hl h =>
    rw [List.cons_append, List.singleton_append, unescape?.eq_3 l rest
      (fun _ _ _ _ _ _ _ _ _ h _ => hl h) (fun _ _ _ _ _ h _ => hl h), h]
  | code hc h =>
    have hu := unescape?_code h hc rest
    rwa [Char.ofNat_toNat] at hu

/-- A text reads back from what is written for it. -/
theorem unescape?_escape (text : List Char) : unescape? (escape text) = some text := by
  induction text with
  | nil => rfl
  | cons c text ih =>
    rw [escape, List.flatMap_cons, unescape?_append, ← escape, ih, Option.map_some]

/-! ## Closing quotes -/

theorem scanString?_append (c : Char) (read rest : List Char) :
    scanString? read (escapeChar c ++ rest) =
      scanString? ((escapeChar c).reverse ++ read) rest := by
  have h := escapeCase c
  generalize escapeChar c = cs at h ⊢
  cases h with
  | plain hq hb hc =>
    have hn : ¬ (c = '\\' ∨ c.toNat < 32) := not_or.mpr ⟨hb, hc⟩
    rw [List.singleton_append, scanString?.eq_4 read c rest hq (fun _ _ _ _ _ h _ => hb h)
      (fun _ _ h _ => hb h), if_neg hn]
    rfl
  | @letter l hl h =>
    rw [List.cons_append, List.singleton_append, scanString?.eq_3 read l rest
      (fun _ _ _ _ _ h _ => hl h), h]
    rfl
  | code hc h =>
    rw [List.cons_append, List.cons_append, List.cons_append, List.cons_append, List.cons_append,
      List.singleton_append, scanString?.eq_2, h]
    rfl

/-- The closing quote of a text is found behind what is written for it. -/
theorem scanString?_escape (text read rest : List Char) :
    scanString? read (escape text ++ '"' :: rest) = some (read.reverse ++ escape text, rest) := by
  induction text generalizing read with
  | nil =>
    rw [escape, List.flatMap_nil, List.nil_append, scanString?, List.append_nil]
  | cons c text ih =>
    rw [escape, List.flatMap_cons, List.append_assoc, scanString?_append, ← escape, ih,
      List.reverse_append, List.reverse_reverse, List.append_assoc]

end Spreadsheet.Json
