import Spreadsheet.Proofs.Json.Parse
import Spreadsheet.Proofs.Map

/-!
# Values that encode data

A value encodes data for a reader (`Encodes`) when it can be printed and the reader finds the data
in it. Scalars, records with missing fields and maps are treated once here; what is stored in a
snapshot is put together from them.
-/

namespace Spreadsheet.Json

/-- Whether a value can be printed, and a reader finds some data in it. -/
structure Encodes {α : Type} (json : Json) (read : Json → Option α) (x : α) : Prop where
  proper : Proper json
  read_eq : read json = some x

/-! ## Scalars -/

theorem encodes_bool (b : Bool) : Encodes (.bool b) bool? b := ⟨.bool b, rfl⟩

theorem encodes_text (s : String) : Encodes (ofText s) text? s where
  proper := .string s.toList
  read_eq := by rw [ofText, text?, unescape?_escape, Option.map_some, String.ofList_toList]

theorem encodes_float {x : Float} (hx : x.isFinite) : Encodes (ofFloat x) float? x where
  proper := by
    rw [ofFloat, if_pos hx]
    exact .number (isLiteral_render numberLayout hx)
  read_eq := float?_ofFloat hx

theorem encodes_index {n : Nat} (hn : n ≤ Numeric.maxIndex) : Encodes (ofIndex n) index? n where
  proper := .number (isLiteral_digitChars n)
  read_eq := index?_ofIndex hn

theorem isFinite_of_float? {json : Json} {x : Float} (h : json.float? = some x) : x.isFinite := by
  unfold float? at h
  split at h
  · exact (Option.filter_eq_some_iff.mp h).2
  · cases h

/-! ## Lists -/

theorem mapM_eq_some {α β : Type} {f : α → Option β} {g : α → β} :
    ∀ {l : List α}, (∀ x ∈ l, f x = some (g x)) → l.mapM f = some (l.map g) := by
  intro l
  induction l with
  | nil => intro _; rfl
  | cons x l ih =>
    intro h
    rw [List.mapM_cons, h x List.mem_cons_self, ih fun y hy => h y (List.mem_cons_of_mem x hy)]
    rfl

theorem exists_of_mem_mapM {α β : Type} {f : α → Option β} {y : β} :
    ∀ {l : List α} {ys : List β}, l.mapM f = some ys → y ∈ ys → ∃ x ∈ l, f x = some y := by
  intro l
  induction l with
  | nil =>
    intro ys h hy
    obtain rfl := Option.some.inj h
    cases hy
  | cons x l ih =>
    intro ys h hy
    rw [List.mapM_cons] at h
    obtain ⟨z, hz, h⟩ := Option.bind_eq_some_iff.mp h
    obtain ⟨zs, hzs, h⟩ := Option.bind_eq_some_iff.mp h
    obtain rfl := Option.some.inj h
    rcases List.mem_cons.mp hy with rfl | hy
    · exact ⟨x, List.mem_cons_self, hz⟩
    · obtain ⟨x', hx', he⟩ := ih hzs hy
      exact ⟨x', List.mem_cons_of_mem x hx', he⟩

/-! ## Records -/

variable {fields : List (String × Option Json)} {name : String} {value : Option Json}

/-- The fields of a record that are not missing. -/
def present (fields : List (String × Option Json)) : List (String × Json) :=
  fields.filterMap fun f => f.2.map (f.1, ·)

/-- A record as an object. -/
def record (fields : List (String × Option Json)) : Json :=
  .object ((present fields).map fun e => (e.1.toList, e.2))

theorem of_mem_present {e : String × Json} (h : e ∈ present fields) :
    ∃ f ∈ fields, f.1 = e.1 ∧ f.2 = some e.2 := by
  obtain ⟨f, hf, hv⟩ := List.mem_filterMap.mp h
  obtain ⟨value, hvalue, rfl⟩ := Option.map_eq_some_iff.mp hv
  exact ⟨f, hf, rfl, hvalue⟩

theorem present_cons (f : String × Option Json) :
    present (f :: fields) = (f.2.map (f.1, ·)).toList ++ present fields := by
  unfold present
  obtain ⟨name, _ | value⟩ := f <;> rfl

theorem filter_present_of_notMem (h : name ∉ fields.map (·.1)) :
    (present fields).filter (·.1 = name) = [] := by
  refine List.filter_eq_nil_iff.mpr fun e he hn => h ?_
  obtain ⟨f, hf, hname, -⟩ := of_mem_present he
  rw [← of_decide_eq_true hn, ← hname]
  exact List.mem_map_of_mem hf

theorem filter_present (hn : (fields.map (·.1)).Nodup) (h : (name, value) ∈ fields) :
    (present fields).filter (·.1 = name) = (value.map (name, ·)).toList := by
  induction fields with
  | nil => cases h
  | cons f fields ih =>
    rw [List.map_cons, List.nodup_cons] at hn
    rw [present_cons, List.filter_append]
    rcases List.mem_cons.mp h with rfl | h
    · rw [filter_present_of_notMem hn.1, List.append_nil]
      cases value <;> simp
    · have hne : f.1 ≠ name := by
        rintro rfl
        exact hn.1 (List.mem_map.mpr ⟨_, h, rfl⟩)
      rw [ih hn.2 h]
      obtain ⟨name', _ | value'⟩ := f <;> simp_all

theorem only?_present (hn : (fields.map (·.1)).Nodup) (h : (name, value) ∈ fields) :
    only? name (present fields) = some value := by
  unfold only?
  rw [filter_present hn h]
  cases value <;> rfl

/-- Whether a name is written as it is. -/
def IsName (name : String) : Prop := escape name.toList = name.toList

instance (name : String) : Decidable (IsName name) :=
  inferInstanceAs (Decidable (escape name.toList = name.toList))

/-- Whether the names of the fields of a record can be told apart and are written as they are. -/
def RecordNames (names : List String) : Prop := names.Nodup ∧ ∀ n ∈ names, IsName n

instance (names : List String) : Decidable (RecordNames names) :=
  inferInstanceAs (Decidable (names.Nodup ∧ ∀ n ∈ names, IsName n))

theorem RecordNames.isName (hn : RecordNames (fields.map (·.1))) {e : String × Json}
    (he : e ∈ present fields) : IsName e.1 := by
  obtain ⟨f, hf, hname, -⟩ := of_mem_present he
  rw [← hname]
  exact hn.2 f.1 (List.mem_map_of_mem hf)

/-- The fields of a record are found again. -/
theorem fields?_record (hn : RecordNames (fields.map (·.1))) :
    (record fields).fields? (fields.map (·.1)) = some (fields.map (·.2)) := by
  have hm : (fields.map (·.1)).mapM (only? · (present fields)) = some (fields.map (·.2)) := by
    rw [List.mapM_map]
    exact mapM_eq_some fun f hf => only?_present hn.1 hf
  refine Option.bind_eq_some_iff.mpr ⟨present fields, ?_, hm⟩
  rw [List.mapM_map]
  refine (mapM_eq_some fun e he => ?_).trans (congrArg some (List.map_id _))
  have hu := unescape?_escape e.1.toList
  rw [hn.isName he] at hu
  simp only [Function.comp_apply, hu, Option.map_some, String.ofList_toList, id]

theorem proper_record (hn : RecordNames (fields.map (·.1)))
    (h : ∀ f ∈ fields, ∀ j ∈ f.2, Proper j) : Proper (record fields) := by
  refine .object (fun m hm => ?_) (fun m hm => ?_)
  · obtain ⟨e, he, rfl⟩ := List.mem_map.mp hm
    exact ⟨e.1.toList, (hn.isName he).symm⟩
  · obtain ⟨e, he, rfl⟩ := List.mem_map.mp hm
    obtain ⟨f, hf, -, hvalue⟩ := of_mem_present he
    exact h f hf e.2 hvalue

/-! ## Fields -/

/-- Whether what stands in a field can be printed, and a reader finds some data in it. -/
structure FieldEncodes {α : Type} (json : Option Json) (read : Option Json → Option α) (x : α) :
    Prop where
  proper : ∀ j ∈ json, Proper j
  read_eq : read json = some x

section Fields

variable {α : Type} {write : α → Json} {read : Json → Option α}

/-- A field that may be missing. -/
theorem fieldEncodes_optional {x : Option α} (hnull : read .null = none)
    (h : ∀ y ∈ x, Encodes (write y) read y) : FieldEncodes (x.map write) (optional? read) x := by
  cases x with
  | none => exact ⟨nofun, rfl⟩
  | some y =>
    obtain ⟨hp, hr⟩ := h y rfl
    refine ⟨fun j hj => Option.some.inj hj ▸ hp, ?_⟩
    rw [Option.map_some, optional?]
    unfold nullable?
    split
    · rename_i hw
      rw [hw, hnull] at hr
      cases hr
    · rw [hr, Option.map_some]

/-- A field that is always there. -/
theorem fieldEncodes_withUsual {x usual : α} (h : Encodes (write x) read x) :
    FieldEncodes (some (write x)) (withUsual? usual read) x :=
  ⟨fun _ hj => Option.some.inj hj ▸ h.proper, h.read_eq⟩

/-- What is found in a field that may be missing was read. -/
theorem exists_of_optional? {json : Option Json} {x : Option α}
    (h : optional? read json = some x) : ∀ y ∈ x, ∃ j, read j = some y := by
  rintro y rfl
  unfold optional? at h
  split at h
  · rename_i j
    unfold nullable? at h
    split at h
    · cases h
    · obtain ⟨z, hz, hy⟩ := Option.map_eq_some_iff.mp h
      exact ⟨j, hz.trans hy⟩
  · cases h

end Fields

/-! ## Maps -/

section Maps

variable {κ α : Type} {order : κ → κ → Ordering} [Std.TransCmp order] [Std.LawfulEqCmp order]
  {readKey : List Char → Option κ} {read : Json → Option α} {writeKey : κ → List Char}
  {write : α → Json} {m : Std.ExtTreeMap κ α order}

/-- A map whose keys and values read back. -/
theorem encodes_map (hk : ∀ (k : κ) (x : α), m[k]? = some x →
      readKey (writeKey k) = some k ∧ ∃ text, writeKey k = escape text)
    (h : ∀ (k : κ) (x : α), m[k]? = some x → Encodes (write x) read x) :
    Encodes (.object (m.toList.map fun (k, x) => (writeKey k, write x)))
      (@map? κ α order _ readKey read) m where
  proper := by
    refine .object (fun e hm => ?_) (fun e hm => ?_)
    · obtain ⟨⟨k, x⟩, hx, rfl⟩ := List.mem_map.mp hm
      exact (hk k x (Std.ExtTreeMap.mem_toList_iff_getElem?_eq_some.mp hx)).2
    · obtain ⟨⟨k, x⟩, hx, rfl⟩ := List.mem_map.mp hm
      exact (h k x (Std.ExtTreeMap.mem_toList_iff_getElem?_eq_some.mp hx)).proper
  read_eq := by
    refine Option.bind_eq_some_iff.mpr ⟨m.toList, ?_, congrArg some (ofList_toList m)⟩
    rw [List.mapM_map]
    refine (mapM_eq_some fun e hm => ?_).trans (congrArg some (List.map_id _))
    obtain ⟨k, x⟩ := e
    have hx := Std.ExtTreeMap.mem_toList_iff_getElem?_eq_some.mp hm
    simp only [Function.comp_apply, (hk k x hx).1, (h k x hx).read_eq]
    rfl

/-- What is found in a map was read. -/
theorem exists_of_map? {json : Json} (h : @map? κ α order _ readKey read json = some m) {k : κ}
    {x : α} (hx : m[k]? = some x) : ∃ j, read j = some x := by
  unfold map? at h
  split at h
  · obtain ⟨entries, he, h⟩ := Option.bind_eq_some_iff.mp h
    obtain rfl := Option.some.inj h
    obtain ⟨⟨key, value⟩, -, hf⟩ := exists_of_mem_mapM he (mem_of_getElem?_ofList hx)
    obtain ⟨k', -, hf⟩ := Option.bind_eq_some_iff.mp hf
    obtain ⟨y, hy, hf⟩ := Option.bind_eq_some_iff.mp hf
    simp only [Option.pure_def, Option.some.injEq, Prod.mk.injEq] at hf
    exact ⟨value, hy.trans (congrArg some hf.2)⟩
  · cases h

end Maps

end Spreadsheet.Json
