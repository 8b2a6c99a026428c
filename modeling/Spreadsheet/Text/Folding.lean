import Spreadsheet.Text.Repertoire

/-!
# Case-insensitive sets

Two characters are the same up to case when the simple case folding of the Unicode Standard takes
them to one character. `closeUnderCase` adds to a set everything that is the same up to case as one
of its members. Characters of the newest version have no other case yet.
-/

namespace Spreadsheet.Text

/-- Pairs of characters that are the same up to case: every `step`-th character of a run
`first-last/step=target` goes with the one as far from `target` as it is from `first`. -/
private def foldPairTable : String := "
  41-4A/1=61 4C-52/1=6C 54-5A/1=74 C0-C4/1=E0 C6-D6/1=E6 D8-DE/1=F8 DF-DF/1=1E9E FF-FF/1=178
  100-12E/2=101 132-136/2=133 139-147/2=13A 14A-176/2=14B 179-17D/2=17A 180-180/1=243
  181-181/1=253 182-184/2=183 186-186/1=254 187-187/1=188 189-18A/1=256 18B-18B/1=18C
  18E-18E/1=1DD 18F-18F/1=259 190-190/1=25B 191-191/1=192 193-193/1=260 194-194/1=263
  195-195/1=1F6 196-196/1=269 197-197/1=268 198-198/1=199 19A-19A/1=23D 19B-19B/1=A7DC
  19C-19C/1=26F 19D-19D/1=272 19E-19E/1=220 19F-19F/1=275 1A0-1A4/2=1A1 1A6-1A6/1=280
  1A7-1A7/1=1A8 1A9-1A9/1=283 1AC-1AC/1=1AD 1AE-1AE/1=288 1AF-1AF/1=1B0 1B1-1B2/1=28A
  1B3-1B5/2=1B4 1B7-1B7/1=292 1B8-1B8/1=1B9 1BC-1BC/1=1BD 1BF-1BF/1=1F7 1CD-1DB/2=1CE
  1DE-1EE/2=1DF 1F4-1F4/1=1F5 1F8-21E/2=1F9 222-232/2=223 23A-23A/1=2C65 23B-23B/1=23C
  23E-23E/1=2C66 23F-240/1=2C7E 241-241/1=242 244-244/1=289 245-245/1=28C 246-24E/2=247
  250-250/1=2C6F 251-251/1=2C6D 252-252/1=2C70 25C-25C/1=A7AB 261-261/1=A7AC 264-264/1=A7CB
  265-265/1=A78D 266-266/1=A7AA 26A-26A/1=A7AE 26B-26B/1=2C62 26C-26C/1=A7AD 271-271/1=2C6E
  27D-27D/1=2C64 282-282/1=A7C5 287-287/1=A7B1 29D-29D/1=A7B2 29E-29E/1=A7B0 370-372/2=371
  376-376/1=377 37B-37D/1=3FD 37F-37F/1=3F3 386-386/1=3AC 388-38A/1=3AD 38C-38C/1=3CC
  38E-38F/1=3CD 390-390/1=1FD3 391-393/2=3B1 394-396/2=3B4 397-397/1=3B7 39B-39D/2=3BB
  39E-39F/1=3BE 3A4-3A5/1=3C4 3A7-3A8/1=3C7 3AA-3AB/1=3CA 3B0-3B0/1=1FE3 3CF-3CF/1=3D7
  3D8-3EE/2=3D9 3F2-3F2/1=3F9 3F7-3F7/1=3F8 3FA-3FA/1=3FB 400-40F/1=450 410-411/1=430
  413-415/2=433 416-41D/1=436 41F-420/1=43F 423-429/1=443 42B-42F/1=44B 460-460/1=461
  464-480/2=465 48A-4BE/2=48B 4C0-4C0/1=4CF 4C1-4CD/2=4C2 4D0-52E/2=4D1 531-556/1=561
  10A0-10C5/1=2D00 10C7-10C7/1=2D27 10CD-10CD/1=2D2D 10D0-10FA/1=1C90 10FD-10FF/1=1CBD
  13A0-13EF/1=AB70 13F0-13F5/1=13F8 1C89-1C89/1=1C8A 1D79-1D79/1=A77D 1D7D-1D7D/1=2C63
  1D8E-1D8E/1=A7C6 1E00-1E5E/2=1E01 1E62-1E94/2=1E63 1EA0-1EFE/2=1EA1 1F00-1F07/1=1F08
  1F10-1F15/1=1F18 1F20-1F27/1=1F28 1F30-1F37/1=1F38 1F40-1F45/1=1F48 1F51-1F57/2=1F59
  1F60-1F67/1=1F68 1F70-1F71/1=1FBA 1F72-1F75/1=1FC8 1F76-1F77/1=1FDA 1F78-1F79/1=1FF8
  1F7A-1F7B/1=1FEA 1F7C-1F7D/1=1FFA 1F80-1F87/1=1F88 1F90-1F97/1=1F98 1FA0-1FA7/1=1FA8
  1FB0-1FB1/1=1FB8 1FB3-1FB3/1=1FBC 1FC3-1FC3/1=1FCC 1FD0-1FD1/1=1FD8 1FE0-1FE1/1=1FE8
  1FE5-1FE5/1=1FEC 1FF3-1FF3/1=1FFC 2132-2132/1=214E 2160-216F/1=2170 2183-2183/1=2184
  24B6-24CF/1=24D0 2C00-2C2F/1=2C30 2C60-2C60/1=2C61 2C67-2C6B/2=2C68 2C72-2C72/1=2C73
  2C75-2C75/1=2C76 2C80-2CE2/2=2C81 2CEB-2CED/2=2CEC 2CF2-2CF2/1=2CF3 A640-A648/2=A641
  A64C-A66C/2=A64D A680-A69A/2=A681 A722-A72E/2=A723 A732-A76E/2=A733 A779-A77B/2=A77A
  A77E-A786/2=A77F A78B-A78B/1=A78C A790-A792/2=A791 A794-A794/1=A7C4 A796-A7A8/2=A797
  A7B3-A7B3/1=AB53 A7B4-A7C2/2=A7B5 A7C7-A7C9/2=A7C8 A7CC-A7DA/2=A7CD A7F5-A7F5/1=A7F6
  FB05-FB05/1=FB06 FF21-FF3A/1=FF41 10400-10427/1=10428 104B0-104D3/1=104D8 10570-1057A/1=10597
  1057C-1058A/1=105A3 1058C-10592/1=105B3 10594-10595/1=105BB 10C80-10CB2/1=10CC0
  10D50-10D65/1=10D70 118A0-118BF/1=118C0 16E40-16E5F/1=16E60 16EA0-16EB8/1=16EBB
  1E900-1E921/1=1E922"

/-- Classes of three or more characters that are the same up to case. -/
private def foldClassTable : String := "
  4B,6B,212A 53,73,17F B5,39C,3BC C5,E5,212B 1C4,1C5,1C6 1C7,1C8,1C9 1CA,1CB,1CC 1F1,1F2,1F3
  345,399,3B9,1FBE 392,3B2,3D0 395,3B5,3F5 398,3B8,3D1,3F4 39A,3BA,3F0 3A0,3C0,3D6 3A1,3C1,3F1
  3A3,3C2,3C3 3A6,3C6,3D5 3A9,3C9,2126 412,432,1C80 414,434,1C81 41E,43E,1C82 421,441,1C83
  422,442,1C84,1C85 42A,44A,1C86 462,463,1C87 1C88,A64A,A64B 1E60,1E61,1E9B"

private def expandPairs : List Nat → List (List Nat)
  | [first, last, step, target] =>
    (List.range ((last - first) / step + 1)).map fun i => [first + i * step, target + i * step]
  | _ => []

/-- The classes of characters that are the same up to case; a character in none is alone. -/
def foldClasses : List (List Nat) :=
  ((hexGroups foldPairTable).flatMap expandPairs ++ hexGroups foldClassTable).filter fun codes =>
    !codes.any newlyAssigned.contains

/-- The set with everything that is the same up to case as a member. -/
def CodeSet.closeUnderCase (s : CodeSet) : CodeSet :=
  let touched := foldClasses.filter fun codes => codes.any s.contains
  .ofSpans (s.spans.toList ++ touched.flatten.map fun code => ⟨code, code⟩)

/-- The set with the other case of each ASCII letter in it. -/
def CodeSet.closeUnderAsciiCase (s : CodeSet) : CodeSet :=
  let letters := (List.range 26).flatMap fun i =>
    (if s.contains (0x41 + i) then [⟨0x61 + i, 0x61 + i⟩] else []) ++
      (if s.contains (0x61 + i) then [⟨0x41 + i, 0x41 + i⟩] else [])
  .ofSpans (s.spans.toList ++ letters)

end Spreadsheet.Text
