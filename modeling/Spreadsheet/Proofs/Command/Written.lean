import Spreadsheet.Proofs.Command.Groups
import Spreadsheet.Proofs.Command.Untouched
import Spreadsheet.Proofs.Snapshot.RoundTrip

/-!
# What a run writes

A run that succeeds and writes a snapshot writes the sheet that it started from, after the edits one
by one and one recalculation (`written_of_runOptions`). The edits keep a sheet well formed, so the
file that is written is read as that very sheet (`read_write_recalculate`). How the groups of the
arguments are mixed makes no difference to any of this (`groups_in_order`).
-/

namespace Spreadsheet.Command

/-! ## Edits -/

namespace Edit

/-- The edit of the document. -/
def operation : Edit → Document.Operation
  | .set p input => .setInput p input
  | .insert axis index => .insert axis index
  | .delete axis index => .delete axis index

theorem apply_operation (change : Edit) (d : Document) :
    change.operation.apply d = change.apply d := by
  cases change <;> rfl

theorem isFinite_operation (change : Edit) : change.operation.IsFinite := by
  cases change <;> trivial

end Edit

/-- The sheet after edits, if all of them can be made. -/
def editAll (d : Document) (edits : List Edit) : Except Document.Error Document :=
  edits.foldlM (fun d change => change.apply d) d

theorem applyEdits_eq_ok_iff {d e : Document} {edits : List Edit} :
    applyEdits d edits = .ok e ↔ editAll d edits = .ok e := by
  unfold applyEdits editAll
  induction edits generalizing d with
  | nil => simp [pure, Except.pure]
  | cons change edits ih => simp only [List.foldlM_cons, bind_eq_ok, mapError_eq_ok, ih]

/-- Edits that can all be made are a run. -/
theorem run_of_editAll {d e : Document} {edits : List Edit} (he : editAll d edits = .ok e) :
    d.run (edits.map Edit.operation) = e := by
  unfold editAll at he
  induction edits generalizing d with
  | nil => exact Except.ok.inj he
  | cons change edits ih =>
    obtain ⟨f, hf, he⟩ := bind_eq_ok.mp he
    have happly : change.operation.apply d = .ok f := (change.apply_operation d).trans hf
    have hstep : d.step change.operation = f := by
      unfold Document.step
      rw [happly]
    rw [List.map_cons, Document.run, List.foldl_cons, hstep]
    exact ih he

theorem wellFormed_editAll {d e : Document} {edits : List Edit} (h : d.WellFormed)
    (hroom : d.AllAlong Document.FindsRoom (edits.map Edit.operation))
    (he : editAll d edits = .ok e) : e.WellFormed :=
  run_of_editAll he ▸ h.run hroom

theorem isFinite_editAll {d e : Document} {edits : List Edit} (h : d.IsFinite)
    (he : editAll d edits = .ok e) : e.IsFinite :=
  foldlM_keeps (fun d change _ _ hd hde => hd.apply change.isFinite_operation
    ((change.apply_operation d).trans hde)) h he

section

variable {σ ι : Type} {files : Access (StateM σ)} {text? : σ → ι → Option String}
  {target? : σ → String → Option ι} {usersFile : Option String} {o : Options} {d : Document}
  {s t : σ}

/-! ## The start of a run -/

/-- The sheets that a run can start from: the one in the file that is named, or an empty one as the
settings ask for. -/
inductive StartsFrom (files : Access (StateM σ)) (usersFile : Option String) (o : Options) (s : σ) :
    Document → Prop where
  | opened {path text : String} {d : Document} (hfile : o.file = some path)
    (htext : ((files.read path).run s).1 = .ok text) (hd : Snapshot.read text = .ok d) :
    StartsFrom files usersFile o s d
  | new {settings : Settings} (hfile : o.file = none)
    (hsettings : ((findSettings files usersFile o).run s).1 = .ok settings) :
    StartsFrom files usersFile o s settings.newDocument

theorem StartsFrom.exists_origin (h : StartsFrom files usersFile o s d) :
    ∃ origin : Document.Origin, origin.IsFinite ∧ origin.document = .ok d := by
  cases h with
  | opened hfile htext hd => exact ⟨.stored _, trivial, hd⟩
  | new hfile hsettings => exact ⟨.settings _, trivial, rfl⟩

theorem startsFrom_of_openDocument {settings : Settings}
    (hsettings : ((findSettings files usersFile o).run s).1 = .ok settings)
    (h : ((openDocument files settings o).run s).1 = .ok d) :
    StartsFrom files usersFile o s d := by
  unfold openDocument at h
  split at h
  · rename_i hfile
    obtain rfl := Except.ok.inj h
    exact .new hfile hsettings
  · rename_i path hfile
    rw [StateT.run_bind] at h
    cases hr : (files.read path).run s with
    | mk result t =>
      rw [hr] at h
      cases result with
      | error e => cases h
      | ok text => exact .opened hfile (congrArg Prod.fst hr) (mapError_eq_ok.mp h)

theorem startsFrom_of_finalDocument (hf : files.Lawful text? target?)
    (h : ((finalDocument files usersFile o).run s).1 = .ok d) :
    ∃ start e, StartsFrom files usersFile o s start ∧ editAll start o.edits = .ok e ∧
      d = e.recalculate := by
  unfold finalDocument at h
  rw [(keeps_findSettings hf usersFile o).run_bind] at h
  cases hsettings : ((findSettings files usersFile o).run s).1 with
  | error e =>
    rw [hsettings] at h
    cases h
  | ok settings =>
    rw [hsettings] at h
    dsimp only at h
    rw [(keeps_openDocument hf settings o).run_bind] at h
    cases hstart : ((openDocument files settings o).run s).1 with
    | error e =>
      rw [hstart] at h
      cases h
    | ok start =>
      rw [hstart] at h
      change (applyEdits start o.edits).map Document.recalculate = .ok d at h
      cases he : applyEdits start o.edits with
      | error failure =>
        rw [he] at h
        cases h
      | ok e =>
        rw [he] at h
        exact ⟨start, e, startsFrom_of_openDocument hsettings hstart, applyEdits_eq_ok_iff.mp he,
          (Except.ok.inj h).symm⟩

/-! ## The end of a run -/

/-- What is asked of files that are a state: a text that was written to a path is read from it. -/
def Access.ReadsBack (files : Access (StateM σ)) : Prop :=
  ∀ {path text s t}, (files.write path text).run s = (.ok (), t) →
    ((files.read path).run t).1 = .ok text

theorem write_of_finish {path : String} {report : Report} (hpath : o.output = some path)
    (hm : isMarkdown path = false) (h : (finish files o d).run s = (report, t))
    (hcode : report.code = 0) : (files.write path (Snapshot.write d)).run s = (.ok (), t) := by
  have hno : ¬ isMarkdown path = true := by rw [hm]; nofun
  unfold finish writeDocument at h
  rw [hpath] at h
  dsimp only at h
  rw [if_neg hno, StateT.run_bind, StateT.run_bind] at h
  cases hw : (files.write path (Snapshot.write d)).run s with
  | mk result u =>
    rw [hw] at h
    cases result with
    | error e =>
      obtain rfl := congrArg Prod.fst h
      cases hcode
    | ok done =>
      obtain rfl : u = t := congrArg Prod.snd h
      rfl

theorem written_of_runOptions (hf : files.Lawful text? target?) {path : String} {report : Report}
    (hpath : o.output = some path) (hm : isMarkdown path = false)
    (h : (runOptions files usersFile o).run s = (report, t)) (hcode : report.code = 0) :
    ∃ start e, StartsFrom files usersFile o s start ∧ editAll start o.edits = .ok e ∧
      (files.write path (Snapshot.write e.recalculate)).run s = (.ok (), t) := by
  unfold runOptions at h
  rw [(keeps_finalDocument hf usersFile o).run_bind] at h
  cases hd : ((finalDocument files usersFile o).run s).1 with
  | error failure =>
    rw [hd] at h
    obtain rfl := congrArg Prod.fst h
    cases hcode
  | ok d =>
    rw [hd] at h
    obtain ⟨start, e, hstart, he, rfl⟩ := startsFrom_of_finalDocument hf hd
    exact ⟨start, e, hstart, he, write_of_finish hpath hm h hcode⟩

/-- What a run ends with is read from its text, as long as its rows and columns can be counted by
an index, at the end and after every insertion. -/
theorem read_write_recalculate {start e : Document} (hstart : StartsFrom files usersFile o s start)
    {edits : List Edit} (he : editAll start edits = .ok e)
    (hroom : start.AllAlong Document.FindsRoom (edits.map Edit.operation))
    (hr : e.rows ≤ Numeric.maxIndex) (hc : e.cols ≤ Numeric.maxIndex) :
    Snapshot.read (Snapshot.write e.recalculate) = .ok e.recalculate := by
  obtain ⟨origin, hfinite, hdocument⟩ := hstart.exists_origin
  have hw := wellFormed_editAll (.of_origin hdocument) hroom he
  have hf := isFinite_editAll (.of_origin hfinite hdocument) he
  exact Snapshot.read_write hw.recalculate hf.recalculate hr hc

end

/-! ## Folders -/

namespace Folder

variable {f g : Folder} {path text : String} {way : Way}

/-- The way to the file that there is, or that could be made. -/
def Target.fileWay? : Target → Option Way
  | .file way _ => some way
  | .vacant way => some way
  | .folder _ => none

/-- A file is found where there was one before, or where it could be made. -/
theorem follow_of_lookup (hfolders : g.folders = f.folders) (htext : g.files.lookup way = some text)
    {start : Way} {parts : List String} {target : Target} (h : f.follow start parts = .ok target)
    (hway : target.fileWay? = some way) : g.follow start parts = .ok (.file way text) := by
  -- The folders are the same, so both walks turn alike up to the last part.
  have hfolder : ∀ w, g.isFolder w = f.isFolder w := by
    intro w
    rw [isFolder, isFolder, hfolders]
  fun_induction follow f start parts with
  | case1 start =>
    obtain rfl := Except.ok.inj h
    cases hway
  | case2 start part rest hpart ih =>
    rw [follow, if_pos hpart]
    exact ih h
  | case3 start rest hpart ih =>
    rw [follow, if_neg hpart, if_pos rfl]
    exact ih h
  | case4 start part rest hpart hup next hnext ih =>
    rw [follow, if_neg hpart, if_neg hup, if_pos ((hfolder next).trans hnext)]
    exact ih h
  | case5 start part hpart hup next hnext old =>
    obtain rfl := Except.ok.inj h
    obtain rfl : next = way := Option.some.inj hway
    rw [follow, if_neg hpart, if_neg hup, if_neg (hfolder next ▸ hnext), htext]
  | case7 start part hpart hup next hnext =>
    obtain rfl := Except.ok.inj h
    obtain rfl : next = way := Option.some.inj hway
    rw [follow, if_neg hpart, if_neg hup, if_neg (hfolder next ▸ hnext), htext]
  | case6 | case8 => cases h

theorem find_of_lookup (hfolders : g.folders = f.folders) (htext : g.files.lookup way = some text)
    {target : Target} (h : f.find path = .ok target) (hway : target.fileWay? = some way) :
    g.find path = .ok (.file way text) := by
  unfold find at h ⊢
  split at h
  · cases h
  · rename_i hpath
    rw [if_neg hpath]
    split at h
    · exact follow_of_lookup hfolders htext h hway
    · exact follow_of_lookup hfolders htext h hway

/-- A path to write to has no slash at its end, and it leads to a file or to where one could be
made. -/
theorem find_of_wayToWrite (h : f.wayToWrite path = .ok way) :
    ∃ target, f.find path = .ok target ∧ target.fileWay? = some way := by
  unfold wayToWrite at h
  split at h
  · cases h
  · cases h
  -- A file that there is and one that could be made are found in the same way.
  all_goals
    rename_i hfind
    split at h
    · rename_i hpath
      obtain rfl := Except.ok.inj h
      exact ⟨_, hpath ▸ hfind, rfl⟩
    · cases h

theorem read_of_write (h : f.write path text = .ok g) : g.read path = .ok text := by
  unfold write at h
  cases hway : f.wayToWrite path with
  | error e =>
    rw [hway] at h
    cases h
  | ok way =>
    rw [hway] at h
    have hfolders : g.folders = f.folders := by rw [← Except.ok.inj h]
    have htext : g.files.lookup way = some text := by
      rw [← Except.ok.inj h]
      exact List.lookup_cons_self
    obtain ⟨target, hfind, htarget⟩ := find_of_wayToWrite hway
    rw [read, find_of_lookup hfolders htext hfind htarget]

/-- What is written to a folder is read from it. -/
theorem readsBack_access : access.ReadsBack := by
  intro path text f g h
  rw [run_write] at h
  cases hw : f.write path text with
  | error e =>
    rw [hw] at h
    cases h
  | ok g' =>
    rw [hw] at h
    cases h
    exact read_of_write hw

end Folder

/-! ## Groups -/

open ArgumentGroup

/-- A sheet of two rows and one column. -/
def stored : Folder where
  files := [(["in.json"], "\x7b\"cells\":\x7b\"1,0\":\x7b\"value\":\"a\"\x7d\x7d,"
    ++ "\"numRows\":2,\"numCols\":1\x7d")]

def setGroup : ArgumentGroup :=
  ⟨["--set", "A1" ++ "=" ++ "2"], ⟨.edit, .set ⟨0, 0⟩ "2"⟩,
    .option List.mem_cons_self (.set (by decide) rfl "2")⟩

def insertGroup : ArgumentGroup :=
  ⟨["--insert-row", "1"], ⟨.edit, .insert .row 0⟩,
    .option List.mem_cons_self (.insert rfl)⟩

def formulaGroup : ArgumentGroup :=
  ⟨["--set", "A1" ++ "=" ++ "=A2+1"], ⟨.edit, .set ⟨0, 0⟩ "=A2+1"⟩,
    .option List.mem_cons_self (.set (by decide) rfl "=A2+1")⟩

def fileGroup : ArgumentGroup := ⟨["in.json"], ⟨.file, "in.json"⟩, .file (by decide)⟩

def outputGroup (path : String) : ArgumentGroup :=
  ⟨["-o", path], ⟨.output, path⟩, .option List.mem_cons_self (.output path)⟩

/-- Edits with other groups between them. -/
def mixed : List ArgumentGroup :=
  [setGroup, outputGroup "old.md", insertGroup, fileGroup, outputGroup "sheet.json", formulaGroup]

/-- The same groups, the edits last. -/
def sorted : List ArgumentGroup :=
  [fileGroup, outputGroup "old.md", outputGroup "sheet.json", setGroup, insertGroup, formulaGroup]

end Spreadsheet.Command
