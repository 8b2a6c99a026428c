import Spreadsheet.Text.CodeSet

/-!
# Spans of characters in UTF-8

UTF-8 writes a code point in one to four bytes: a leading byte, and bytes that hold six bits each.
`Span.byteSpans` takes a span of code points apart into sequences of byte spans, so that a character
lies in the span just when its bytes lie in the spans of one of the sequences, in order.
-/

namespace Spreadsheet.Text

/-- Code points that are written alike: the leading byte of code point zero, had it this form, and
the number of bytes that follow. -/
structure ByteForm where
  codes : Span
  lead : Nat
  following : Nat

/-- The forms of UTF-8, shortest first. The codes between D800 and DFFF have none. -/
def byteForms : List ByteForm := [
  ⟨⟨0, 0x7F⟩, 0, 0⟩, ⟨⟨0x80, 0x7FF⟩, 0xC0, 1⟩, ⟨⟨0x800, 0xD7FF⟩, 0xE0, 2⟩,
  ⟨⟨0xE000, 0xFFFF⟩, 0xE0, 2⟩, ⟨⟨0x10000, 0x10FFFF⟩, 0xF0, 3⟩]

/-- The span of the bytes that follow a leading byte. -/
def followingByte : Span := ⟨0x80, 0xBF⟩

/-- The numbers from `first` to `last`, written in base 64 with `digits` digits behind the leading
one, as sequences of byte spans. Blocks that share a leading digit and are whole are taken together;
one that is not whole, at either end, is taken apart digit by digit. -/
def digitSpans (lead first last : Nat) : Nat → List (List Span)
  | 0 => [[⟨lead + first, lead + last⟩]]
  | digits + 1 =>
    let block := Nat.pow 64 (digits + 1)
    let within := fun (high low up : Nat) =>
      (digitSpans 0x80 low up digits).map fun rest => ⟨lead + high, lead + high⟩ :: rest
    let low := first % block
    let up := last % block
    let high := first / block
    let top := last / block
    if high = top ∧ (low ≠ 0 ∨ up ≠ block - 1) then within high low up
    else
      let firstWhole := if low = 0 then high else high + 1
      let pastWhole := if up = block - 1 then top + 1 else top
      (if low = 0 then [] else within high low (block - 1))
        ++ (if firstWhole < pastWhole then
            [⟨lead + firstWhole, lead + pastWhole - 1⟩ :: List.replicate (digits + 1) followingByte]
          else [])
        ++ (if up = block - 1 then [] else within top 0 up)

/-- The sequences of byte spans that write the characters of a span, in ascending order. -/
def Span.byteSpans (s : Span) : List (List Span) :=
  byteForms.flatMap fun form =>
    let first := max s.first form.codes.first
    let last := min s.last form.codes.last
    if first ≤ last then digitSpans form.lead first last form.following else []

end Spreadsheet.Text
