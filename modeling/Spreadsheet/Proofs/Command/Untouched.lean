import Spreadsheet.Proofs.Command.Anchor
import Spreadsheet.Proofs.Snapshot.Load

/-!
# What a run does to the files

A run that fails leaves all files as they are, and one that succeeds changes at most the file that
its arguments ask to write (`run_touches_only_output`): all else that can fail comes before the one
write. This holds of any files that nothing but a write that succeeds changes (`Access.Lawful`),
those of a `Folder` among them.
-/

namespace Spreadsheet.Command

section

variable {σ ι α β : Type}

/-! ## Actions that change nothing -/

/-- Whether an action leaves the state as it is. -/
def Keeps (x : StateM σ α) : Prop := ∀ s, (x.run s).2 = s

theorem Keeps.pure (a : α) : Keeps (pure a : StateM σ α) := fun _ => rfl

theorem Keeps.bind {x : StateM σ α} {f : α → StateM σ β} (hx : Keeps x) (hf : ∀ a, Keeps (f a)) :
    Keeps (x >>= f) := by
  intro s
  have h : ((x >>= f).run s).2 = ((f (x.run s).1).run (x.run s).2).2 := rfl
  rw [h, hf, hx]

theorem Keeps.run_bind {x : StateM σ α} (hx : Keeps x) (f : α → StateM σ β) :
    (x >>= f).run s = (f (x.run s).1).run s := by
  have h : (x >>= f).run s = (f (x.run s).1).run (x.run s).2 := rfl
  rw [h, hx]

/-- What is asked of files that are a state: a look at them changes nothing, nor does a write that
fails, and a write that succeeds changes the file that the path leads to and no other. -/
structure Access.Lawful (files : Access (StateM σ)) (text? : σ → ι → Option String)
    (target? : σ → String → Option ι) : Prop where
  isFile : ∀ path, Keeps (files.isFile path)
  size : ∀ path, Keeps (files.size path)
  read : ∀ path, Keeps (files.read path)
  write_error : ∀ {path text s t e}, (files.write path text).run s = (.error e, t) → t = s
  write_ok : ∀ {path text s t}, (files.write path text).run s = (.ok (), t) →
    ∃ i, target? s path = some i ∧ ∀ j, j ≠ i → text? t j = text? s j

variable {files : Access (StateM σ)} {text? : σ → ι → Option String}
  {target? : σ → String → Option ι} {s t : σ}

theorem keeps_readSettings (hf : files.Lawful text? target?) (path : String) :
    Keeps (readSettings files path) := by
  unfold readSettings
  refine (hf.size path).bind fun size => ?_
  split
  · exact .pure _
  · split
    · exact .pure _
    · refine (hf.read path).bind fun text => ?_
      split <;> exact .pure _

theorem keeps_findSettings (hf : files.Lawful text? target?) (usersFile : Option String)
    (o : Options) : Keeps (findSettings files usersFile o) := by
  unfold findSettings
  split
  · exact keeps_readSettings hf _
  · refine (hf.isFile _).bind fun found => ?_
    split
    · exact keeps_readSettings hf _
    · exact .pure _
  · exact .pure _

theorem keeps_openDocument (hf : files.Lawful text? target?) (settings : Settings) (o : Options) :
    Keeps (openDocument files settings o) := by
  unfold openDocument
  split
  · exact .pure _
  · refine (hf.read _).bind fun text => ?_
    split <;> exact .pure _

theorem keeps_finalDocument (hf : files.Lawful text? target?) (usersFile : Option String)
    (o : Options) : Keeps (finalDocument files usersFile o) := by
  unfold finalDocument
  refine (keeps_findSettings hf usersFile o).bind fun settings => ?_
  split
  · exact .pure _
  · refine (keeps_openDocument hf _ o).bind fun d => ?_
    split <;> exact .pure _

/-! ## The one write -/

/-- How a run can leave the files: as they are, or, if it succeeds, changed in the file that it was
asked to write. -/
inductive Leaves (text? : σ → ι → Option String) (target? : σ → String → Option ι)
    (output : Option String) (s : σ) : Report × σ → Prop where
  | unchanged {report : Report} (hcode : report.code = 0 ∨ report.code = 1) :
    Leaves text? target? output s (report, s)
  | written {report : Report} {t : σ} {path : String} {i : ι} (hcode : report.code = 0)
    (hpath : output = some path) (htarget : target? s path = some i)
    (hother : ∀ j, j ≠ i → text? t j = text? s j) : Leaves text? target? output s (report, t)

theorem run_writeDocument (files : Access (StateM σ)) (d : Document) (path : String) (s : σ) :
    ∃ text f, (writeDocument files d path).run s =
      (((files.write path text).run s).1.mapError f, ((files.write path text).run s).2) := by
  unfold writeDocument
  split
  · exact ⟨_, _, rfl⟩
  · exact ⟨_, _, rfl⟩

theorem leaves_finish (hf : files.Lawful text? target?) (o : Options) (d : Document) (s : σ) :
    Leaves text? target? o.output s ((finish files o d).run s) := by
  unfold finish
  cases ho : o.output with
  | none => exact .unchanged (.inl rfl)
  | some path =>
    obtain ⟨text, f, hw⟩ := run_writeDocument files d path s
    simp only
    rw [StateT.run_bind, hw]
    cases hr : (files.write path text).run s with
    | mk result t =>
      cases result with
      | error e =>
        obtain rfl := hf.write_error hr
        exact .unchanged (.inr rfl)
      | ok done =>
        obtain ⟨i, hi, hother⟩ := hf.write_ok hr
        exact .written rfl rfl hi hother

theorem leaves_runOptions (hf : files.Lawful text? target?) (usersFile : Option String)
    (o : Options) (s : σ) :
    Leaves text? target? o.output s ((runOptions files usersFile o).run s) := by
  unfold runOptions
  rw [StateT.run_bind]
  have hkeep := keeps_finalDocument hf usersFile o s
  cases hr : (finalDocument files usersFile o).run s with
  | mk result t =>
    -- Whether the sheet came about or not, the files are still those of the start.
    obtain rfl : t = s := by
      rw [hr] at hkeep
      exact hkeep
    cases result with
    | error e => exact .unchanged (.inr rfl)
    | ok d => exact leaves_finish hf o d t

/-! ## What is asked to be written -/

theorem output_add {o p : Options} {flag : Flag} {value : String} (h : o.add flag value = .ok p) :
    p.output = if flag = .output then some value else o.output := by
  cases flag with
  | command | output | settings =>
    cases h
    rfl
  | anchor | set | insert | delete =>
    -- The value is read first, which can fail.
    obtain ⟨_, _, h⟩ := bind_eq_ok.mp h
    cases h
    rfl

theorem named?_eq_output_iff {arg : String} :
    Flag.named? arg = some .output ↔ arg = "-o" ∨ arg = "--output" := by
  constructor
  · intro h
    unfold Flag.named? at h
    split at h <;> first | exact .inl rfl | exact .inr rfl | cases h
  · rintro (rfl | rfl) <;> rfl

/-- Whether a path stands behind an option for the output. -/
def NamesOutput (args : List String) (path : String) : Prop :=
  ∃ before flag after, args = before ++ flag :: path :: after ∧ (flag = "-o" ∨ flag = "--output")

/-- The output that further arguments ask for stands among them. -/
theorem output_addArguments {o p : Options} {args : List String} {path : String}
    (h : o.addArguments args = .ok (some p)) (hp : p.output = some path) :
    o.output = some path ∨ NamesOutput args path := by
  fun_induction Options.addArguments o args with
  | case1 o =>
    cases h
    exact .inl hp
  | case2 | case4 | case5 | case6 | case7 => cases h
  | case3 o arg hh flag value rest hf q hq ih =>
    rcases ih h with hq' | ⟨before, flag', after, rfl, hflag'⟩
    · rw [output_add hq] at hq'
      split at hq'
      · rename_i ho
        obtain rfl := Option.some.inj hq'
        exact .inr ⟨[], arg, rest, rfl, named?_eq_output_iff.mp (ho ▸ hf)⟩
      · exact .inl hq'
    · exact .inr ⟨arg :: value :: before, flag', after, rfl, hflag'⟩
  | case8 o arg hh rest hf hl hs ih =>
    rcases ih h with ho | ⟨before, flag', after, rfl, hflag'⟩
    · exact .inl ho
    · exact .inr ⟨arg :: before, flag', after, rfl, hflag'⟩

/-- The path that arguments ask to write the sheet to. -/
def output? (args : List String) : Option String :=
  match Options.ofArguments args with
  | .ok (some o) => o.output
  | _ => none

theorem namesOutput_of_output? {args : List String} {path : String} (h : output? args = some path) :
    NamesOutput args path := by
  unfold output? at h
  split at h
  · rename_i o ho
    exact (output_addArguments ho h).resolve_left nofun
  · cases h

/-! ## Runs -/

theorem leaves_run (hf : files.Lawful text? target?) (usersFile : Option String)
    (args : List String) (s : σ) :
    Leaves text? target? (output? args) s ((run files usersFile args).run s) := by
  unfold run output?
  cases Options.ofArguments args with
  | error e => exact .unchanged (.inr rfl)
  | ok asked =>
    cases asked with
    | none => exact .unchanged (.inl rfl)
    | some o => exact leaves_runOptions hf usersFile o s

/-- A run that fails leaves the files as they are. One that succeeds does so as well, or it changes
the file that its arguments ask to write and no other. -/
theorem run_touches_only_output (hf : files.Lawful text? target?) (usersFile : Option String)
    (args : List String) (s : σ) :
    ∀ report t, (run files usersFile args).run s = (report, t) →
      (report.code = 0 ∨ report.code = 1) ∧ (report.code = 1 → t = s) ∧
      (report.code = 0 → t = s ∨ ∃ path i, output? args = some path ∧ NamesOutput args path ∧
        target? s path = some i ∧ ∀ j, j ≠ i → text? t j = text? s j) ∧
      ((∀ arg ∈ args, arg ≠ "-o" ∧ arg ≠ "--output") → t = s) := by
  intro report t hrun
  have hleaves := leaves_run hf usersFile args s
  rw [hrun] at hleaves
  cases hleaves with
  | unchanged hcode => exact ⟨hcode, fun _ => rfl, fun _ => .inl rfl, fun _ => rfl⟩
  | written hcode hpath htarget hother =>
    have hnames := namesOutput_of_output? hpath
    refine ⟨.inl hcode, fun h => ?_, fun _ => .inr ⟨_, _, hpath, hnames, htarget, hother⟩,
      fun h => ?_⟩
    · rw [hcode] at h
      cases h
    · obtain ⟨before, flag, after, rfl, hflag⟩ := hnames
      have hne := h flag (List.mem_append_right before List.mem_cons_self)
      exact absurd hflag (not_or.mpr hne)

end

/-! ## Folders -/

namespace Folder

variable {f g : Folder} {path text : String} {way other : Way}

theorem lookup_filter_ne (h : other ≠ way) (l : List (Way × String)) :
    (l.filter (·.1 ≠ way)).lookup other = l.lookup other := by
  induction l with
  | nil => rfl
  | cons e l ih =>
    by_cases he : e.1 = way
    · have hne : (other == e.1) = false := beq_false_of_ne (he ▸ h)
      rw [List.filter_cons_of_neg (by simpa using he), ih, List.lookup_cons, hne]
    · rw [List.filter_cons_of_pos (by simpa using he), List.lookup_cons, List.lookup_cons, ih]

/-- A write changes what one way leads to. -/
theorem write_eq_ok (h : f.write path text = .ok g) :
    ∃ way, f.wayToWrite path = .ok way ∧
      ∀ other, other ≠ way → g.files.lookup other = f.files.lookup other := by
  unfold write at h
  cases hway : f.wayToWrite path with
  | error e => rw [hway] at h; cases h
  | ok way =>
    rw [hway] at h
    obtain rfl := Except.ok.inj h
    refine ⟨way, rfl, fun other hother => ?_⟩
    have hne : (other == way) = false := beq_false_of_ne hother
    rw [List.lookup_cons, hne, lookup_filter_ne hother]

theorem run_write (f : Folder) (path text : String) :
    (access.write path text).run f =
      match f.write path text with
      | .ok g => (.ok (), g)
      | .error e => (.error e, f) := by
  simp only [access, StateT.run_bind, StateT.run_get]
  change StateT.run (match f.write path text with | .ok f => _ | .error e => _) f = _
  cases f.write path text <;> rfl

/-- The files of a folder change by being written only. -/
theorem lawful_access : access.Lawful (fun f way => f.files.lookup way)
    fun f path => (f.wayToWrite path).toOption where
  isFile _ _ := rfl
  size _ _ := rfl
  read _ _ := rfl
  write_error {path text f g e} h := by
    rw [run_write] at h
    cases hw : f.write path text with
    | error e => rw [hw] at h; cases h; rfl
    | ok g => rw [hw] at h; cases h
  write_ok {path text f g} h := by
    rw [run_write] at h
    cases hw : f.write path text with
    | error e => rw [hw] at h; cases h
    | ok g =>
      rw [hw] at h
      cases h
      obtain ⟨way, hway, hother⟩ := write_eq_ok hw
      exact ⟨way, by rw [hway]; rfl, hother⟩

end Folder

/-- A file that no run is asked to write, and one that is written over. -/
def notes : Folder where
  files := [(["notes.txt"], "as they were"), (["sheet.md"], "old")]

/-- Arguments of which the last edit cannot be made. -/
def failingArguments : List String := ["--set", "A1=1", "--delete-row", "99", "-o", "sheet.md"]

def writingArguments : List String := ["--set", "A1=1", "-o", "old.md", "-o", "sheet.md"]

theorem run_touches_only_output_of_notes :
    ((run Folder.access none failingArguments).run notes).2 = notes ∧
      ((run Folder.access none writingArguments).run notes).2.files.lookup ["notes.txt"] =
        some "as they were" := by
  have hfails : ((run Folder.access none failingArguments).run notes).1.code = 1 := by
    decide +kernel
  have hworks : ((run Folder.access none writingArguments).run notes).1.code = 0 := by
    decide +kernel
  obtain ⟨-, hfailed, -, -⟩ :=
    run_touches_only_output Folder.lawful_access none failingArguments notes _ _ Prod.mk.eta.symm
  obtain ⟨-, -, hdone, -⟩ :=
    run_touches_only_output Folder.lawful_access none writingArguments notes _ _ Prod.mk.eta.symm
  refine ⟨hfailed hfails, ?_⟩
  rcases hdone hworks with ht | ⟨path, way, hpath, -, hway, hother⟩
  · rw [ht]
    rfl
  · have houtput : output? writingArguments = some "sheet.md" := by decide +kernel
    have htarget : (notes.wayToWrite "sheet.md").toOption = some ["sheet.md"] := by decide +kernel
    obtain rfl := Option.some.inj (houtput.symm.trans hpath)
    obtain rfl := Option.some.inj (htarget.symm.trans hway)
    exact (hother ["notes.txt"] (by decide)).trans rfl

end Spreadsheet.Command
