import Spreadsheet.Json.Printer
import Spreadsheet.Json.Reader
import Spreadsheet.Proofs.Json.Escape
import Spreadsheet.Proofs.Json.Number

/-!
# Parsing what was printed

A value whose numbers are numbers of JSON and whose strings are escaped texts is the value that its
printed text writes (`parse?_text`). The printed text is cut into stretches: `Reads` says that a
stretch, in front of what follows it, takes the reader from one progress to another, and stretches
are put together by `Reads.append`.
-/

namespace Spreadsheet.Json

/-- Values whose numbers are numbers of JSON and whose strings and keys are escaped texts. -/
inductive Proper : Json → Prop where
  | null : Proper .null
  | bool (b : Bool) : Proper (.bool b)
  | number {literal : List Char} (h : IsLiteral literal) : Proper (.number literal)
  | string (text : List Char) : Proper (.string (escape text))
  | array {items : List Json} (h : ∀ item ∈ items, Proper item) : Proper (.array items)
  | object {members : List (List Char × Json)} (hk : ∀ m ∈ members, ∃ text, m.1 = escape text)
      (h : ∀ m ∈ members, Proper m.2) : Proper (.object members)

variable {cs ds rest : List Char} {p q r : Progress}

/-! ## Stretches -/

/-- Whether a stretch, in front of what follows it, consists of some tokens. -/
def Yields (cs : List Char) (ts : List Token) (rest : List Char) : Prop :=
  ∀ fuel read, (cs ++ rest).length ≤ fuel → ∃ fuel', rest.length ≤ fuel' ∧
    tokensFrom? fuel read (cs ++ rest) = tokensFrom? fuel' (ts.reverse ++ read) rest

/-- Whether a stretch, in front of what follows it, takes the reader from one progress to
another. -/
def Reads (cs rest : List Char) (p q : Progress) : Prop :=
  ∃ ts, Yields cs ts rest ∧ ts.foldlM Progress.step p = some q

namespace Reads

theorem append (h : Reads cs (ds ++ rest) p q) (h' : Reads ds rest q r) :
    Reads (cs ++ ds) rest p r := by
  obtain ⟨ts, hy, hs⟩ := h
  obtain ⟨ts', hy', hs'⟩ := h'
  refine ⟨ts ++ ts', fun fuel read hf => ?_, ?_⟩
  · rw [List.append_assoc] at hf ⊢
    obtain ⟨fuel₁, hf₁, h₁⟩ := hy fuel read hf
    obtain ⟨fuel₂, hf₂, h₂⟩ := hy' fuel₁ (ts.reverse ++ read) hf₁
    exact ⟨fuel₂, hf₂, by rw [h₁, h₂, List.reverse_append, List.append_assoc]⟩
  · rw [List.foldlM_append, hs]
    exact hs'

theorem nil : Reads [] rest p p :=
  ⟨[], fun fuel _ hf => ⟨fuel, hf, rfl⟩, rfl⟩

/-- A single token. -/
theorem token {c : Char} {t : Token} (hs : isSeparator c = false)
    (ht : Token.scan? (c :: (cs ++ rest)) = some (t, rest)) (hp : p.step t = some q) :
    Reads (c :: cs) rest p q := by
  refine ⟨[t], fun fuel read hf => ?_, ?_⟩
  · rw [List.cons_append, List.length_cons] at hf
    obtain ⟨fuel, rfl⟩ := Nat.exists_eq_add_of_le' (Nat.le_trans (Nat.le_add_left 1 _) hf)
    refine ⟨fuel, ?_, ?_⟩
    · rw [List.length_append] at hf
      omega
    · simp only [List.cons_append, tokensFrom?, hs, Bool.false_eq_true, if_false, ht,
        List.reverse_singleton, List.nil_append]
  · simp [hp]

/-- Characters that only separate tokens. -/
theorem separators (h : ∀ c ∈ cs, isSeparator c) : Reads cs rest p p := by
  refine ⟨[], ?_, rfl⟩
  induction cs with
  | nil => exact fun fuel _ hf => ⟨fuel, hf, rfl⟩
  | cons c cs ih =>
    intro fuel read hf
    rw [List.cons_append, List.length_cons] at hf
    obtain ⟨fuel, rfl⟩ := Nat.exists_eq_add_of_le' (Nat.le_trans (Nat.le_add_left 1 _) hf)
    obtain ⟨fuel', hf', he⟩ := ih (fun d hd => h d (List.mem_cons_of_mem c hd)) fuel read (by omega)
    refine ⟨fuel', hf', ?_⟩
    rw [List.cons_append, tokensFrom?, if_pos (h c List.mem_cons_self)]
    exact he

theorem newline (depth : Nat) : Reads (newline depth) rest p p := by
  refine separators fun c hc => ?_
  rcases List.mem_cons.mp hc with rfl | hc
  · rfl
  · rw [List.eq_of_mem_replicate hc]
    rfl

end Reads

/-! ## Tokens -/

/-- A number is no other token, and does not start with a separator. -/
theorem scan?_number {literal : List Char} (h : scanNumber? cs = some (literal, rest)) :
    Token.scan? cs = some (.number literal, rest) ∧ ∀ c ∈ cs.head?, isSeparator c = false := by
  constructor
  · unfold Token.scan?
    split
    case h_11 => rw [h, Option.map_some]
    all_goals simp [scanNumber?, scanWhole?, Numeric.isDigit] at h
  · intro c hc
    by_contra hs
    obtain ⟨rest', rfl⟩ := List.head?_eq_some_iff.mp hc
    rw [Bool.not_eq_false] at hs
    simp only [isSeparator, Bool.or_eq_true, decide_eq_true_eq] at hs
    rcases hs with ((rfl | rfl) | rfl) | rfl <;>
      simp [scanNumber?, scanWhole?, Numeric.isDigit] at h

theorem reads_number {literal : List Char} (h : IsLiteral literal) (hr : Delimited rest)
    (hp : p.step (.number literal) = some q) : Reads literal rest p q := by
  obtain ⟨ht, hs⟩ := scan?_number (h rest hr)
  cases literal with
  | nil => simpa [scanNumber?, scanWhole?] using h [] (fun c hc => by cases hc)
  | cons c cs => exact Reads.token (hs c rfl) ht hp

theorem reads_string (text : List Char) (hp : p.step (.string (escape text)) = some q) :
    Reads (printString (escape text)) rest p q := by
  refine Reads.token rfl ?_ hp
  change (scanString? [] ((escape text ++ ['"']) ++ rest)).map _ = _
  rw [List.append_assoc, List.singleton_append, scanString?_escape]
  rfl

/-! ## Values -/

/-- Whether a value may come next. -/
def Progress.AtValue (p : Progress) : Prop := p.expected = .value ∨ p.expected = .firstItem

theorem step_of_atValue (hp : p.AtValue) (t : Token) (ht : t ≠ .closeArray) :
    p.step t = Progress.startValue p.frames t := by
  obtain ⟨frames, expected⟩ := p
  rcases hp with rfl | rfl
  · rfl
  · cases t <;> first | rfl | exact absurd rfl ht

/-- Whether a printed value is read where one may come next. -/
def Printed (json : Json) : Prop :=
  ∀ {depth : Nat} {rest : List Char} {p q : Progress}, Delimited rest → p.AtValue →
    Progress.deliver p.frames json = some q → Reads (print depth json) rest p q

theorem delimited_newline (depth : Nat) (rest : List Char) : Delimited (newline depth ++ rest) :=
  fun _ hc => .inr (Option.some.inj hc).symm

theorem delimited_items (depth : Nat) (items : List Json) (hr : Delimited rest) :
    Delimited (printItems depth items ++ rest) := by
  cases items with
  | nil => rwa [printItems, List.nil_append]
  | cons item items => exact fun _ hc => .inl (Option.some.inj hc).symm

theorem delimited_members (depth : Nat) (members : List (List Char × Json))
    (hr : Delimited rest) : Delimited (printMembers depth members ++ rest) := by
  cases members with
  | nil => rwa [printMembers, List.nil_append]
  | cons member members => exact fun _ hc => .inl (Option.some.inj hc).symm

theorem reads_items {depth : Nat} {frames : List Frame} {items : List Json}
    (h : ∀ item ∈ items, Printed item) (hr : Delimited rest) :
    ∀ read, Reads (printItems depth items) rest ⟨.array read :: frames, .next⟩
      ⟨.array (items.reverse ++ read) :: frames, .next⟩ := by
  induction items with
  | nil => exact fun read => Reads.nil
  | cons item items ih =>
    intro read
    have hcomma : Reads [',']
        (newline depth ++ (print depth item ++ (printItems depth items ++ rest)))
        ⟨.array read :: frames, .next⟩ ⟨.array read :: frames, .value⟩ := Reads.token rfl rfl rfl
    have hitem : Reads (print depth item) (printItems depth items ++ rest)
        ⟨.array read :: frames, .value⟩ ⟨.array (item :: read) :: frames, .next⟩ :=
      h item List.mem_cons_self (delimited_items depth items hr) (.inl rfl) rfl
    have hitems := ih (fun i hi => h i (List.mem_cons_of_mem item hi)) (item :: read)
    rw [List.reverse_cons, List.append_assoc]
    exact ((hcomma.append (Reads.newline depth)).append hitem).append hitems

/-- A member of an object, behind a stretch that ends where its key may come. -/
theorem reads_member (depth : Nat) {frames : List Frame} {read : List (List Char × Json)}
    {key : List Char} {value : Json} {expected : Expected} (hk : ∃ text, key = escape text)
    (h : Printed value) (hr : Delimited rest) (he : expected = .firstKey ∨ expected = .key)
    (hcs : Reads cs (printString key ++ ([':', ' '] ++ (print depth value ++ rest))) p
      ⟨.object read :: frames, expected⟩) :
    Reads (cs ++ printString key ++ [':', ' '] ++ print depth value) rest p
      ⟨.object ((key, value) :: read) :: frames, .next⟩ := by
  obtain ⟨text, rfl⟩ := hk
  have hkey : Reads (printString (escape text)) ([':', ' '] ++ (print depth value ++ rest))
      ⟨.object read :: frames, expected⟩ ⟨.member read (escape text) :: frames, .colon⟩ := by
    refine reads_string text ?_
    rcases he with rfl | rfl <;> rfl
  have hcolon : Reads [':'] ([' '] ++ (print depth value ++ rest))
      ⟨.member read (escape text) :: frames, .colon⟩
      ⟨.member read (escape text) :: frames, .value⟩ := Reads.token rfl rfl rfl
  have hblank : Reads [' '] (print depth value ++ rest)
      ⟨.member read (escape text) :: frames, .value⟩
      ⟨.member read (escape text) :: frames, .value⟩ :=
    Reads.separators fun c hc => by rw [List.mem_singleton.mp hc]; rfl
  have hvalue : Reads (print depth value) rest ⟨.member read (escape text) :: frames, .value⟩
      ⟨.object ((escape text, value) :: read) :: frames, .next⟩ := h hr (.inl rfl) rfl
  exact ((hcs.append hkey).append (hcolon.append hblank)).append hvalue

theorem reads_members {depth : Nat} {frames : List Frame} {members : List (List Char × Json)}
    (hk : ∀ m ∈ members, ∃ text, m.1 = escape text) (h : ∀ m ∈ members, Printed m.2)
    (hr : Delimited rest) :
    ∀ read, Reads (printMembers depth members) rest ⟨.object read :: frames, .next⟩
      ⟨.object (members.reverse ++ read) :: frames, .next⟩ := by
  induction members with
  | nil => exact fun read => Reads.nil
  | cons member members ih =>
    intro read
    obtain ⟨key, value⟩ := member
    have hcomma : Reads [','] (newline depth ++ (printString key ++ ([':', ' '] ++
        (print depth value ++ (printMembers depth members ++ rest)))))
        ⟨.object read :: frames, .next⟩ ⟨.object read :: frames, .key⟩ := Reads.token rfl rfl rfl
    have hmember := reads_member depth (hk _ List.mem_cons_self) (h _ List.mem_cons_self)
      (delimited_members depth members hr) (.inr rfl) (hcomma.append (Reads.newline depth))
    have hmembers := ih (fun m hm => hk m (List.mem_cons_of_mem _ hm))
      (fun m hm => h m (List.mem_cons_of_mem _ hm)) ((key, value) :: read)
    rw [List.reverse_cons, List.append_assoc]
    exact hmember.append hmembers

theorem Proper.printed {json : Json} (h : Proper json) : Printed json := by
  induction h with
  | null =>
    intro depth rest p q _ hp hq
    exact Reads.token rfl rfl ((step_of_atValue hp .null nofun).trans hq)
  | bool b =>
    intro depth rest p q _ hp hq
    have hb := (step_of_atValue hp (.bool b) nofun).trans hq
    cases b <;> exact Reads.token rfl rfl hb
  | number h =>
    intro depth rest p q hr hp hq
    exact reads_number h hr ((step_of_atValue hp (.number _) nofun).trans hq)
  | string text =>
    intro depth rest p q _ hp hq
    exact reads_string text ((step_of_atValue hp (.string _) nofun).trans hq)
  | @array items h ih =>
    intro depth rest p q hr hp hq
    have hopen : ∀ rest, Reads ['['] rest p ⟨.array [] :: p.frames, .firstItem⟩ := fun rest =>
      Reads.token rfl rfl (step_of_atValue hp .openArray nofun)
    cases items with
    | nil => exact (hopen _).append (Reads.token rfl rfl hq)
    | cons item items =>
      have hitem : Reads (print (depth + 1) item)
          (printItems (depth + 1) items ++ (newline depth ++ ([']'] ++ rest)))
          ⟨.array [] :: p.frames, .firstItem⟩ ⟨.array [item] :: p.frames, .next⟩ :=
        ih item List.mem_cons_self (delimited_items _ _ (delimited_newline depth _)) (.inr rfl) rfl
      have hitems := @reads_items _ (depth + 1) p.frames items
        (fun i hi => ih i (List.mem_cons_of_mem item hi)) (delimited_newline depth ([']'] ++ rest))
        [item]
      have hclose : Reads [']'] rest
          ⟨.array (items.reverse ++ [item]) :: p.frames, .next⟩ q := by
        refine Reads.token rfl rfl ?_
        rw [← List.reverse_cons]
        simpa [Progress.step, Progress.close] using hq
      exact (((((hopen _).append (Reads.newline _)).append hitem).append hitems).append
        (Reads.newline _)).append hclose
  | @object members hk h ih =>
    intro depth rest p q hr hp hq
    have hopen : ∀ rest, Reads ['\x7b'] rest p ⟨.object [] :: p.frames, .firstKey⟩ := fun rest =>
      Reads.token rfl rfl (step_of_atValue hp .openObject nofun)
    cases members with
    | nil => exact (hopen _).append (Reads.token rfl rfl hq)
    | cons member members =>
      obtain ⟨key, value⟩ := member
      have hmember := reads_member (depth + 1) (hk _ List.mem_cons_self) (ih _ List.mem_cons_self)
        (delimited_members (depth + 1) members (delimited_newline depth (['\x7d'] ++ rest)))
        (.inl rfl) ((hopen _).append (Reads.newline (depth + 1)))
      have hmembers := @reads_members _ (depth + 1) p.frames members
        (fun m hm => hk m (List.mem_cons_of_mem _ hm))
        (fun m hm => ih m (List.mem_cons_of_mem _ hm)) (delimited_newline depth (['\x7d'] ++ rest))
        [(key, value)]
      have hclose : Reads ['\x7d'] rest
          ⟨.object (members.reverse ++ [(key, value)]) :: p.frames, .next⟩ q := by
        refine Reads.token rfl rfl ?_
        rw [← List.reverse_cons]
        simpa [Progress.step, Progress.close] using hq
      exact ((hmember.append hmembers).append (Reads.newline _)).append hclose

/-- A value is read back from its text. -/
theorem parse?_text {json : Json} (h : Proper json) : parse? json.text = some json := by
  have hd : Delimited [] := fun c hc => nomatch hc
  obtain ⟨ts, hy, hs⟩ : Reads (print 0 json) [] ⟨[], .value⟩ ⟨[], .nothing json⟩ :=
    h.printed hd (.inl rfl) rfl
  obtain ⟨fuel', -, ht⟩ := hy (print 0 json).length [] (by rw [List.append_nil])
  rw [List.append_nil, List.append_nil] at ht
  have htokens : tokens? (print 0 json) = some ts := by
    rw [tokens?, ht]
    unfold tokensFrom?
    rw [List.reverse_reverse]
  rw [parse?, text, String.toList_ofList, htokens, Option.bind_some, ofTokens?, hs]

end Spreadsheet.Json
