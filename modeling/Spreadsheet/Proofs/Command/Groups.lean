import Spreadsheet.Proofs.Command.Anchor
import Spreadsheet.Proofs.Snapshot.Load
import Spreadsheet.Proofs.Text.Stretch

/-!
# Arguments in groups

The arguments of the program come in groups: an option with its value, or the name of a file. Each
asks for one thing (`Asks`), whatever stands around it, so arguments can be read if and only if they
are groups, at most one of them a file (`ofArguments_eq_ok_some_iff`). Edits are then made in the
order of their groups, and of the other requests the last of a kind counts (`asked`). Groups of
different kinds can be exchanged (`asked_eq_of_filter_eq`).
-/

namespace Spreadsheet.Command

/-! ## Requests -/

/-- The kinds of things that arguments can ask for. -/
inductive Kind where
  | file
  | command
  | anchor
  | edit
  | output
  | settings
deriving DecidableEq

/-- What has to be said along with a kind. -/
def Kind.Value : Kind → Type
  | .file => String
  | .command => String
  | .anchor => Position
  | .edit => Edit
  | .output => String
  | .settings => String

/-- What an option with its value, or the name of a file, asks for. -/
structure Request where
  kind : Kind
  value : kind.Value

namespace Request

/-- The value of a request of some kind. -/
def value? (k : Kind) (r : Request) : Option k.Value :=
  if h : r.kind = k then some (h ▸ r.value) else none

/-- The values of the requests of some kind, in order. -/
def values (k : Kind) (rs : List Request) : List k.Value := rs.filterMap (value? k)

theorem values_filter_kind (k : Kind) (rs : List Request) :
    values k (rs.filter (·.kind = k)) = values k rs := by
  unfold values
  rw [List.filterMap_filter]
  refine congrArg (List.filterMap · rs) (funext fun r => ?_)
  by_cases hr : r.kind = k
  · rw [if_pos (decide_eq_true hr)]
  · rw [if_neg (by simpa using hr), value?, dif_neg hr]

end Request

namespace Options

/-- The options that requests come to: all edits, and of every other kind the last request. -/
def ofRequests (rs : List Request) : Options where
  file := (Request.values .file rs).getLast?
  command := (Request.values .command rs).getLast?
  anchor := (Request.values .anchor rs).getLast?
  edits := Request.values .edit rs
  output := (Request.values .output rs).getLast?
  settings := (Request.values .settings rs).getLast?

/-- The options with one more request. -/
def ask (o : Options) : Request → Options
  | ⟨.file, path⟩ => { o with file := some path }
  | ⟨.command, formula⟩ => { o with command := some formula }
  | ⟨.anchor, p⟩ => { o with anchor := some p }
  | ⟨.edit, change⟩ => o.addEdit change
  | ⟨.output, path⟩ => { o with output := some path }
  | ⟨.settings, path⟩ => { o with settings := some path }

theorem ofRequests_concat (rs : List Request) (r : Request) :
    ofRequests (rs ++ [r]) = (ofRequests rs).ask r := by
  obtain ⟨k, value⟩ := r
  cases k <;> (simp [ofRequests, ask, addEdit, Request.values, Request.value?]; rfl)

theorem foldl_ask (rs : List Request) : rs.foldl ask {} = ofRequests rs := by
  induction rs using List.reverseRecOn with
  | nil => rfl
  | append_singleton rs r ih =>
    rw [List.foldl_append, ih, ofRequests_concat, List.foldl_cons, List.foldl_nil]

theorem ofRequests_eq_of_filter_eq {rs rs' : List Request}
    (h : ∀ k, rs.filter (·.kind = k) = rs'.filter (·.kind = k)) :
    ofRequests rs = ofRequests rs' := by
  have hvalues : ∀ k, Request.values k rs = Request.values k rs' := by
    intro k
    rw [← Request.values_filter_kind k rs, h k, Request.values_filter_kind]
  simp only [ofRequests, hvalues]

end Options

/-! ## Options and their values -/

namespace Flag

variable {arg value : String} {flag : Flag}

/-- The names of an option. -/
def names : Flag → List String
  | .command => ["-c", "--command"]
  | .anchor => ["--at"]
  | .set => ["--set"]
  | .insert axis => ["--insert-" ++ axisSuffix axis]
  | .delete axis => ["--delete-" ++ axisSuffix axis]
  | .output => ["-o", "--output"]
  | .settings => ["--config"]

theorem named?_eq_some_iff : named? arg = some flag ↔ arg ∈ flag.names := by
  constructor
  · intro h
    unfold named? at h
    split at h <;> first | (obtain rfl := Option.some.inj h; decide) | cases h
  · intro h
    cases flag with
    | insert axis | delete axis =>
      obtain rfl := List.mem_singleton.mp h
      cases axis <;> rfl
    | anchor | set | settings =>
      obtain rfl := List.mem_singleton.mp h
      rfl
    | command | output =>
      rcases List.mem_pair.mp h with rfl | rfl <;> rfl

/-- What an option asks for with a value, if the value is valid. -/
inductive Asks : Flag → String → Request → Prop
  | command (formula : String) : Asks .command formula ⟨.command, formula⟩
  | anchor {cell : String} {p : Position} (h : readCell cell = .ok p) :
    Asks .anchor cell ⟨.anchor, p⟩
  | set {cell : String} {p : Position} (hcell : '=' ∉ cell.toList) (h : readCell cell = .ok p)
    (input : String) : Asks .set (cell ++ "=" ++ input) ⟨.edit, .set p input⟩
  | insert {axis : Axis} {value : String} {index : Nat} (h : readIndex axis value = .ok index) :
    Asks (.insert axis) value ⟨.edit, .insert axis index⟩
  | delete {axis : Axis} {value : String} {index : Nat} (h : readIndex axis value = .ok index) :
    Asks (.delete axis) value ⟨.edit, .delete axis index⟩
  | output (path : String) : Asks .output path ⟨.output, path⟩
  | settings (path : String) : Asks .settings path ⟨.settings, path⟩

theorem readSet_eq_ok_iff {change : Edit} : readSet value = .ok change ↔
    ∃ cell p input, value = cell ++ "=" ++ input ∧ '=' ∉ cell.toList ∧ readCell cell = .ok p ∧
      change = .set p input := by
  have hcut : ∀ cell input : String, value = cell ++ "=" ++ input ↔
      value.toList = cell.toList ++ '=' :: input.toList := by
    intro cell input
    rw [← String.toList_inj, String.toList_append, String.toList_append, List.append_assoc]
    rfl
  unfold readSet
  constructor
  · intro h
    split at h
    · cases h
    · rename_i b input hd
      obtain ⟨p, hp, h⟩ := bind_eq_ok.mp h
      obtain ⟨rfl, htext, hnot⟩ := cut_iff.mp ⟨rfl, hd⟩
      refine ⟨_, p, _, (hcut _ _).mpr ?_, ?_, hp, (Except.ok.inj h).symm⟩
      · rwa [String.toList_ofList, String.toList_ofList]
      · rwa [String.toList_ofList]
  · rintro ⟨cell, p, input, hvalue, hnot, hp, rfl⟩
    obtain ⟨ht, hd⟩ := cut_iff.mpr ⟨rfl, (hcut _ _).mp hvalue, hnot⟩
    simp only [hd, ht, String.ofList_toList, hp]
    rfl

theorem add_eq_ok_iff {o p : Options} :
    o.add flag value = .ok p ↔ ∃ r, flag.Asks value r ∧ p = o.ask r := by
  constructor
  · intro h
    cases flag with
    | command =>
      exact ⟨_, .command value, (Except.ok.inj h).symm⟩
    | output => exact ⟨_, .output value, (Except.ok.inj h).symm⟩
    | settings => exact ⟨_, .settings value, (Except.ok.inj h).symm⟩
    | anchor =>
      obtain ⟨q, hq, h⟩ := bind_eq_ok.mp h
      exact ⟨_, .anchor hq, (Except.ok.inj h).symm⟩
    | set =>
      obtain ⟨change, hchange, h⟩ := bind_eq_ok.mp h
      obtain ⟨cell, q, input, rfl, hcell, hq, rfl⟩ := readSet_eq_ok_iff.mp hchange
      exact ⟨_, .set hcell hq input, (Except.ok.inj h).symm⟩
    | insert axis =>
      obtain ⟨index, hindex, h⟩ := bind_eq_ok.mp h
      exact ⟨_, .insert hindex, (Except.ok.inj h).symm⟩
    | delete axis =>
      obtain ⟨index, hindex, h⟩ := bind_eq_ok.mp h
      exact ⟨_, .delete hindex, (Except.ok.inj h).symm⟩
  · rintro ⟨r, hr, rfl⟩
    cases hr with
    | command | output | settings => rfl
    | anchor h | insert h | delete h => exact bind_eq_ok.mpr ⟨_, h, rfl⟩
    | set hcell h input =>
      exact bind_eq_ok.mpr ⟨_, readSet_eq_ok_iff.mpr ⟨_, _, _, rfl, hcell, h, rfl⟩, rfl⟩

theorem Asks.kind_ne_file {r : Request} (h : flag.Asks value r) : r.kind ≠ .file := by
  cases h <;> exact nofun

end Flag

/-! ## Groups -/

/-- Whether arguments are an option with a valid value, or the name of a file, and what they ask
for. The value may look like an option itself. -/
inductive Asks : List String → Request → Prop
  | option {flag : Flag} {name value : String} {r : Request} (hname : name ∈ flag.names)
    (hvalue : flag.Asks value r) : Asks [name, value] r
  | file {path : String} (h : ¬ looksLikeOption path) : Asks [path] ⟨.file, path⟩

/-- Arguments that ask for one thing. -/
structure ArgumentGroup where
  args : List String
  request : Request
  asks : Asks args request

namespace ArgumentGroup

/-- The arguments of some groups, one group after the other. -/
def arguments (groups : List ArgumentGroup) : List String := groups.flatMap args

/-- The options that some groups ask for. -/
def asked (groups : List ArgumentGroup) : Options := .ofRequests (groups.map request)

/-- The number of groups that name a file. -/
def files (groups : List ArgumentGroup) : Nat := groups.countP (·.request.kind = .file)

theorem files_cons_of_file {g : ArgumentGroup} (h : g.request.kind = .file)
    (groups : List ArgumentGroup) : files (g :: groups) = files groups + 1 :=
  List.countP_cons_of_pos (decide_eq_true h)

theorem files_cons_of_ne {g : ArgumentGroup} (h : g.request.kind ≠ .file)
    (groups : List ArgumentGroup) : files (g :: groups) = files groups :=
  List.countP_cons_of_neg (by simpa using h)

end ArgumentGroup

namespace Options

open ArgumentGroup

variable {o p : Options} {arg : String} {args : List String} {r : Request}

theorem not_isHelp_of_named? {flag : Flag} (h : Flag.named? arg = some flag) : ¬ isHelp arg := by
  intro hh
  simp only [isHelp, Bool.or_eq_true, decide_eq_true_eq] at hh
  rcases hh with rfl | rfl <;> cases h

theorem not_isHelp_of_not_looksLikeOption (h : ¬ looksLikeOption arg) : ¬ isHelp arg := by
  intro hh
  simp only [isHelp, Bool.or_eq_true, decide_eq_true_eq] at hh
  rcases hh with rfl | rfl <;> exact h (by decide)

theorem named?_of_not_looksLikeOption (h : ¬ looksLikeOption arg) : Flag.named? arg = none := by
  cases hf : Flag.named? arg with
  | none => rfl
  | some flag =>
    refine absurd ?_ h
    unfold Flag.named? at hf
    split at hf <;> first | decide | cases hf

/-- A group is read before what follows it, and only for a file does it matter what was asked for
before. -/
theorem addArguments_asks (h : Asks args r) (hfile : r.kind = .file → o.file = none)
    (rest : List String) : o.addArguments (args ++ rest) = (o.ask r).addArguments rest := by
  cases h with
  | option hname hvalue =>
    have hf := Flag.named?_eq_some_iff.mpr hname
    have hadd : o.add _ _ = .ok (o.ask r) := Flag.add_eq_ok_iff.mpr ⟨r, hvalue, rfl⟩
    rw [List.cons_append, List.cons_append, List.nil_append,
      addArguments_flag (not_isHelp_of_named? hf) hf, hadd]
    rfl
  | file h =>
    rw [List.cons_append, List.nil_append, addArguments_plain (not_isHelp_of_not_looksLikeOption h)
      (named?_of_not_looksLikeOption h), if_neg h, hfile rfl]
    rfl

theorem file_ask (h : r.kind ≠ .file) : (o.ask r).file = o.file := by
  obtain ⟨k, value⟩ := r
  cases k with
  | file => exact absurd rfl h
  | command | anchor | edit | output | settings => rfl

theorem addArguments_groups {groups : List ArgumentGroup}
    (h : files groups + o.file.toList.length ≤ 1) :
    o.addArguments (arguments groups) = .ok (some ((groups.map request).foldl ask o)) := by
  induction groups generalizing o with
  | nil => rfl
  | cons g groups ih =>
    have harguments : arguments (g :: groups) = g.args ++ arguments groups := List.flatMap_cons
    rw [harguments, List.map_cons, List.foldl_cons]
    by_cases hg : g.request.kind = .file
    · -- The one file that there can be: none was named before, and none is named behind.
      rw [files_cons_of_file hg] at h
      have hfile : o.file = none := by
        cases hf : o.file with
        | none => rfl
        | some path =>
          rw [hf, Option.toList_some, List.length_singleton] at h
          omega
      rw [addArguments_asks g.asks fun _ => hfile]
      refine ih ?_
      have hlen : (o.ask g.request).file.toList.length ≤ 1 := by
        cases (o.ask g.request).file <;> simp
      omega
    · rw [files_cons_of_ne hg] at h
      rw [addArguments_asks g.asks fun hk => absurd hk hg]
      refine ih ?_
      rwa [file_ask hg]

theorem exists_groups_of_addArguments (h : o.addArguments args = .ok (some p)) :
    ∃ groups, args = arguments groups ∧ files groups + o.file.toList.length ≤ 1 ∧
      p = (groups.map request).foldl ask o := by
  fun_induction addArguments o args with
  | case1 o =>
    obtain rfl := Option.some.inj (Except.ok.inj h)
    refine ⟨[], rfl, ?_, rfl⟩
    cases o.file <;> simp [files]
  | case2 | case4 | case5 | case6 | case7 => cases h
  | case3 o arg hh flag value rest hf q hq ih =>
    obtain ⟨r, hr, rfl⟩ := Flag.add_eq_ok_iff.mp hq
    obtain ⟨groups, rfl, hfiles, rfl⟩ := ih h
    rw [file_ask hr.kind_ne_file] at hfiles
    refine ⟨⟨[arg, value], r, .option (Flag.named?_eq_some_iff.mp hf) hr⟩ :: groups, rfl, ?_, rfl⟩
    rwa [files_cons_of_ne hr.kind_ne_file]
  | case8 o arg hh rest hf hl hs ih =>
    obtain ⟨groups, rfl, hfiles, rfl⟩ := ih h
    refine ⟨⟨[arg], ⟨.file, arg⟩, .file hl⟩ :: groups, rfl, ?_, rfl⟩
    have hnone : o.file = none := by simpa using hs
    rw [files_cons_of_file rfl, hnone]
    exact hfiles

/-- Arguments are understood if and only if they are groups, with at most one file among them. -/
theorem ofArguments_eq_ok_some_iff : ofArguments args = .ok (some o) ↔
    ∃ groups, args = arguments groups ∧ files groups ≤ 1 ∧ o = asked groups := by
  constructor
  · intro h
    obtain ⟨groups, hargs, hfiles, ho⟩ := exists_groups_of_addArguments h
    exact ⟨groups, hargs, hfiles, ho.trans (foldl_ask _)⟩
  · rintro ⟨groups, rfl, hfiles, rfl⟩
    exact (addArguments_groups (o := {}) hfiles).trans
      (congrArg (Except.ok ∘ some) (foldl_ask _))

end Options

namespace ArgumentGroup

variable {groups groups' : List ArgumentGroup}

theorem filter_map_request (groups : List ArgumentGroup) (k : Kind) :
    (groups.map request).filter (·.kind = k) =
      (groups.filter (·.request.kind = k)).map request :=
  List.filter_map

theorem files_eq_of_filter_eq
    (h : ∀ k, groups.filter (·.request.kind = k) = groups'.filter (·.request.kind = k)) :
    files groups = files groups' := by
  rw [files, files, List.countP_eq_length_filter, List.countP_eq_length_filter, h]

/-- Groups of different kinds can be exchanged. -/
theorem asked_eq_of_filter_eq
    (h : ∀ k, groups.filter (·.request.kind = k) = groups'.filter (·.request.kind = k)) :
    asked groups = asked groups' := by
  refine Options.ofRequests_eq_of_filter_eq fun k => ?_
  rw [filter_map_request, filter_map_request, h]

end ArgumentGroup

end Spreadsheet.Command
