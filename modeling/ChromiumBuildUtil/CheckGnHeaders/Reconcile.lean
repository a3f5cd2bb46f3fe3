import ChromiumBuildUtil.CheckGnHeaders.NinjaDeps
import ChromiumBuildUtil.CheckGnHeaders.GnProject
import Mathlib.Data.Finset.Sort
import Mathlib.Data.List.Lex
import Mathlib.Data.Char

/-!
The three acquisition workers and `main` of `check_gn_headers.py`. Each worker
turns the outcome of its tool run into the `(result, error)` pair it puts on its
queue; `main` takes the three pairs, runs its fatal checks, and writes the sorted
missing and non-existing headers.
-/

namespace ChromiumBuildUtil.CheckGnHeaders.Reconcile

open ChromiumBuildUtil.Python
open ChromiumBuildUtil.CheckGnHeaders.NinjaDeps
open ChromiumBuildUtil.CheckGnHeaders.GnProject

abbrev ToolRun := Except PyStr PyStr

/-- The result `GetHeadersFromNinja` puts on its queue: the dictionary
`ParseNinjaDepsOutput` returned, or the `set()` it started with when the run raised. -/
inductive NinjaAns
  | deps (d : PyDict (List PyStr))
  | emptySet

def getHeadersFromNinja (out_dir : PyStr) (skip_obj : Bool) (run : ToolRun) :
    NinjaAns × Option PyStr :=
  match run with
  | .ok stdout => (.deps (parseNinjaDepsOutput (ninjaSource stdout) out_dir skip_obj), none)
  | .error e => (.emptySet, some e)

/-- `GetHeadersFromGN`, given the directory `mkdtemp` made and `project.json` as
`json.load` returns it, or the error of the steps before. -/
def getHeadersFromGN (out_dir tmp : PyStr) (project : Except PyStr JsonValue) :
    Finset PyStr × Option PyStr :=
  match project with
  | .error e => (∅, some e)
  | .ok gn_json =>
      match parseGNProjectJSON gn_json out_dir tmp with
      | .ok ans => (ans, none)
      | .error e => (∅, some e.str)

def getDepsPrefixes (run : ToolRun) : Finset PyStr × Option PyStr :=
  match run with
  | .ok gclient_out =>
      ((split gclient_out '\n').foldl
        (fun prefixes i => if startswith i "src/".toList then insert (i.drop 4) prefixes
          else prefixes) ∅, none)
  | .error e => (∅, some e)

def isBuildClean (run : ToolRun) : Bool :=
  match run with
  | .ok out => containsStr out "no work to do.".toList
  | .error _ => false

/-- `ParseWhiteList`; `re.sub(r'#.*', '', line)` keeps what comes before the first `#`. -/
def parseWhiteList (whitelist : PyStr) : Finset PyStr :=
  (split whitelist '\n').foldl
    (fun out line =>
      let line := strip (line.takeWhile (· ≠ '#'))
      if line ≠ [] then insert line out else out) ∅

def filterOutDepsedRepo (files deps : Finset PyStr) : Finset PyStr :=
  files.filter fun f => ¬ ∃ d ∈ deps, startswith f d = true

/-- `p` lies inside directory `d`: it is `d` or starts with `d/`. -/
def liesInside (p d : PyStr) : Prop := p = d ∨ d ++ ['/'] <+: p

instance (p d : PyStr) : Decidable (liesInside p d) := inferInstanceAs (Decidable (_ ∨ _))

/-- A header beside `build/` is dropped by the parser, and one beside a nested
repository by `FilterOutDepsedRepo`, although neither lies inside an excluded
directory. -/
theorem string_prefix_filters_drop_outside_headers :
    ¬ liesInside "buildtools/x.h".toList "build".toList ∧
      ¬ liesInside "buildtools/x.h".toList "out".toList ∧
      ¬ liesInside "buildtools/x.h".toList "out/Release".toList ∧
      (parseNinjaDepsOutput ["obj/a.o: #deps 1, deps mtime 1 (VALID)".toList,
        "    ../../buildtools/x.h".toList] "out/Release".toList true).lookup
          "buildtools/x.h".toList = none ∧
      ¬ liesInside "third_party/webrtc_overrides/x.h".toList "third_party/webrtc".toList ∧
      filterOutDepsedRepo {"third_party/webrtc_overrides/x.h".toList}
        (getDepsPrefixes (.ok "src/third_party/webrtc\n".toList)).1 = ∅ := by
  decide

def getNonExistingFiles (isfile : PyStr → Bool) (lst : Finset PyStr) : Finset PyStr :=
  lst.filter fun f => isfile f = false

def sortedList (l : List PyStr) : List PyStr := l.mergeSort fun a b => decide (a ≤ b)

def sortedSet (s : Finset PyStr) : List PyStr := s.sort (· ≤ ·)

structure Args where
  out_dir : PyStr := "out/Release".toList
  json : Option PyStr := none
  whitelist : Option PyStr := none
  skip_dirty_check : Bool := false
  verbose : Bool := false

/-- What `main` reads from the machine: the file system, `open(path).read()`, the runs of
`ninja -C out_dir -n` (`dryRun`) and `ninja -C out_dir -t deps`, the directory
`tempfile.mkdtemp(dir='')` makes for `gn gen` with the `project.json` that `json.load`
returns, the run of `gclient recurse`, and the second deps run of `--verbose`. A failed
call is known by its error text. -/
structure Host where
  isdir : PyStr → Bool
  isfile : PyStr → Bool
  read : PyStr → Except PyStr PyStr
  dryRun : ToolRun
  ninjaDeps : ToolRun
  gnTmp : PyStr
  gnProject : Except PyStr JsonValue
  gclient : ToolRun
  ninjaDepsAgain : ToolRun

/-- How a run of `main` ends, with the list it leaves in the `--json` file and the
lines it prints about its findings. -/
structure Outcome where
  json : Option (List PyStr)
  report : List PyStr
  exit : Exit

def dumpJson (args : Args) (data : List PyStr) : Option (List PyStr) :=
  if truthy args.json then some data else none

/-- `PrintError(msg)`: `DumpJson([])`, then `parser.error(msg)`. -/
def printError (args : Args) (msg : PyStr) : Outcome :=
  ⟨dumpJson args [], [], .parserError msg⟩

/-- The message of the first worker error that is true as a Python value. -/
def firstError (errs : List (Option PyStr)) : Option PyStr :=
  errs.findSome? fun err => err.filter (· ≠ [])

def lookupDeps (d : NinjaAns) (f : PyStr) : Except PyExc (List PyStr) :=
  match d with
  | .deps d =>
      match d.lookup f with
      | some v => .ok v
      | none => .error (.keyError f)
  | .emptySet => .error (.typeError "'set' object has no attribute '__getitem__'".toList)

/-- `for f in missing: print(f); for cc in d[f]: print('  ', cc)`: the lines printed,
and the exception that stops the loop, if one does. -/
def detailLines (d : NinjaAns) : List PyStr → List PyStr × Option PyExc
  | [] => ([], none)
  | f :: rest =>
      match lookupDeps d f with
      | .ok ccs =>
          match detailLines d rest with
          | (lines, err) => (f :: ccs.map (fun cc => "   ".toList ++ cc) ++ lines, err)
      | .error e => ([f], some e)

/-- The lines printing `count[f], f` for the missing `f`, the keys of `count` sorted
by decreasing count, keeping the dictionary's order among equal counts. -/
def countLines (d : PyDict (List PyStr)) (missing : List PyStr) : List PyStr :=
  let count := fun k => ((d.lookup k).getD []).length
  ((d.keys.mergeSort fun a b => decide (count b ≤ count a)).filter (· ∈ missing)).map
    fun f => Nat.toDigits 10 (count f) ++ ' ' :: f

def verboseReport (missing : List PyStr) (d : NinjaAns) : List PyStr × Option PyExc :=
  let header := "\nDetailed dependency info:".toList
  let countHeader := "\nMissing headers sorted by number of affected object files:".toList
  match detailLines d missing with
  | (lines, some e) => (header :: lines, some e)
  | (lines, none) =>
      match d with
      | .emptySet =>
          (header :: lines ++ [countHeader], some (.attributeError "set".toList "iteritems".toList))
      | .deps d => (header :: lines ++ countHeader :: countLines d missing, none)

/-- `main` from the allow-list on: sort, dump the JSON list, print the findings. -/
def report (args : Args) (host : Host) (missing nonexisting : Finset PyStr) : Outcome :=
  let missing := sortedSet missing
  let nonexisting := sortedSet nonexisting
  let json := dumpJson args (sortedList (missing ++ nonexisting))
  if missing = [] ∧ nonexisting = [] then ⟨json, [], .returned 0⟩
  else
    let lines :=
      (if missing ≠ [] then
        "\nThe following files should be included in gn files:".toList :: missing else []) ++
      (if nonexisting ≠ [] then
        "\nThe following non-existing files should be removed from gn files:".toList ::
          nonexisting else [])
    let code := if truthy args.json then 0 else 1
    if args.verbose then
      match verboseReport missing (getHeadersFromNinja args.out_dir false host.ninjaDepsAgain).1 with
      | (more, some e) => ⟨json, lines ++ more, .raised e⟩
      | (more, none) => ⟨json, lines ++ more, .returned code⟩
    else ⟨json, lines, .returned code⟩

def reconcile (args : Args) (host : Host) : Outcome :=
  match getHeadersFromNinja args.out_dir true host.ninjaDeps,
      getHeadersFromGN args.out_dir host.gnTmp host.gnProject with
  | (.emptySet, _), _ => ⟨none, [], .raised (.attributeError "set".toList "keys".toList)⟩
  | (.deps d, d_err), (gn, gn_err) =>
      let missing := d.keys.toFinset \ gn
      let nonexisting := getNonExistingFiles host.isfile gn
      match getDepsPrefixes host.gclient with
      | (deps, deps_err) =>
          let missing := filterOutDepsedRepo missing deps
          let nonexisting := filterOutDepsedRepo nonexisting deps
          match firstError [d_err, gn_err, deps_err] with
          | some e => printError args e
          | none =>
              if (getNonExistingFiles host.isfile d.keys.toFinset).Nonempty then
                printError args ("Found non-existing files in ninja deps. You should ".toList ++
                  "build all in OUT_DIR.".toList)
              else if d.keys = [] then
                printError args "OUT_DIR looks empty. You should build all there.".toList
              else if ∃ i ∈ nonexisting, containsStr i "/gen/".toList = true then
                printError args "OUT_DIR looks wrong. You should build all there.".toList
              else
                match args.whitelist.filter (· ≠ []) with
                | none => report args host missing nonexisting
                | some path =>
                    match host.read path with
                    | .error e => ⟨none, [], .raised (.external e)⟩
                    | .ok text =>
                        let whitelist := parseWhiteList text
                        report args host (missing \ whitelist) (nonexisting \ whitelist)

def main (args : Args) (host : Host) : Outcome :=
  if host.isdir args.out_dir = false then
    ⟨none, [], .parserError ("OUT_DIR \"".toList ++ args.out_dir ++ "\" does not exist.".toList)⟩
  else if !args.skip_dirty_check && !isBuildClean host.dryRun then
    let dirty_msg := "OUT_DIR looks dirty. You need to build all there.".toList
    if truthy args.json then ⟨dumpJson args [], [], .returned 0⟩
    else ⟨none, [], .parserError dirty_msg⟩
  else reconcile args host

def cleanTrace : PyStr :=
  "obj/base/a.o: #deps 2, deps mtime 1 (VALID)\n    ../../base/a.h\n    ../../base/b.h\n".toList

def cleanGclient : PyStr := "src/third_party/webrtc\n".toList

def cleanWhiteList : PyStr := "# headers to skip\nbase/x.h\n".toList

def cleanDeclared : Finset PyStr := insert "base/c.h".toList (insert "base/a.h".toList ∅)

/-- A checkout where `base/b.h` is used but undeclared and `base/c.h` is declared but
absent. -/
def cleanHost : Host where
  isdir := fun _ => true
  isfile := fun f => f == "base/a.h".toList || f == "base/b.h".toList
  read := fun _ => .ok cleanWhiteList
  dryRun := .ok "ninja: no work to do.\n".toList
  ninjaDeps := .ok cleanTrace
  gnTmp := "tmpgn".toList
  gnProject := .ok (.dict [("targets".toList, .dict [("//base:base".toList,
    .dict [("sources".toList, .list [.str "//base/a.h".toList, .str "//base/c.h".toList])])])])
  gclient := .ok cleanGclient
  ninjaDepsAgain := .ok []

def cleanArgs : Args :=
  { json := some "gn_check.json".toList, whitelist := some "whitelist.txt".toList,
    skip_dirty_check := true }

def ninjaFailureHost : Host :=
  { cleanHost with
    ninjaDeps := .error ("Command '['ninja', '-C', 'out/Release', '-t', 'deps']' ".toList ++
      "returned non-zero exit status 1".toList) }

/-- When the ninja worker fails, `main` reads `set().keys()` before it looks at the
worker's error: it dies of an `AttributeError` and writes no JSON. -/
theorem main_raises_when_ninja_worker_fails :
    (main cleanArgs ninjaFailureHost).exit =
        .raised (.attributeError "set".toList "keys".toList) ∧
      (main cleanArgs ninjaFailureHost).json = none := by
  decide

def gnFailureHost : Host :=
  { cleanHost with
    gnProject := .error "Command '['gn', 'gen', ...]' returned non-zero exit status 1".toList }

def verboseHost : Host := { cleanHost with ninjaDepsAgain := .ok cleanTrace }

/-- The nested-repository directories: `l[4:]` for each line `l` of the `gclient`
output that starts with `src/`. -/
def depsPrefixesSpec (gclient_out : PyStr) : Finset PyStr :=
  (((split gclient_out '\n').filter (startswith · "src/".toList)).map (·.drop 4)).toFinset

/-- The allow-list: the non-empty lines of the file once all from the first `#` is
deleted and whitespace stripped. -/
def whiteListSpec (text : PyStr) : Finset PyStr :=
  (((split text '\n').map fun l => strip (l.takeWhile (· ≠ '#'))).filter (· ≠ [])).toFinset

theorem getDepsPrefixes_ok (gclient_out : PyStr) :
    getDepsPrefixes (.ok gclient_out) = (depsPrefixesSpec gclient_out, none) := by
  ext p
  · simp only [getDepsPrefixes, depsPrefixesSpec]
    rw [mem_foldl_insert (fun i => startswith i "src/".toList = true)]
    simp [and_assoc]
  · rfl

theorem parseWhiteList_eq (text : PyStr) : parseWhiteList text = whiteListSpec text := by
  ext p
  simp only [parseWhiteList]
  rw [mem_foldl_insert (fun i : PyStr => strip (i.takeWhile (· ≠ '#')) ≠ [])
    (fun i => strip (i.takeWhile (· ≠ '#')))]
  simp [whiteListSpec]
  constructor
  · rintro ⟨i, hi, hne, rfl⟩
    exact ⟨⟨i, hi, rfl⟩, hne⟩
  · rintro ⟨⟨i, hi, rfl⟩, hne⟩
    exact ⟨i, hi, hne, rfl⟩

/-- The headers reported missing: used headers that the build graph `G` does not
declare, that start with no nested-repository directory of `D`, and that the
allow-list `W` does not name. -/
def missingSpec (used G D W : Finset PyStr) : Finset PyStr :=
  used.filter fun p => p ∉ G ∧ (∀ d ∈ D, ¬ d <+: p) ∧ p ∉ W

/-- The declared headers reported as non-existing: headers of `G` that are no file,
start with no directory of `D`, and that `W` does not name. -/
def nonexistingSpec (isfile : PyStr → Bool) (G D W : Finset PyStr) : Finset PyStr :=
  G.filter fun p => isfile p = false ∧ (∀ d ∈ D, ¬ d <+: p) ∧ p ∉ W

theorem filterOutDepsedRepo_sdiff_eq_missingSpec (used G D W : Finset PyStr) :
    filterOutDepsedRepo (used \ G) D \ W = missingSpec used G D W := by
  ext p
  simp only [filterOutDepsedRepo, missingSpec, Finset.mem_sdiff, Finset.mem_filter,
    startswith_iff, not_exists, not_and, and_assoc]

theorem filterOutDepsedRepo_sdiff_eq_nonexistingSpec (isfile : PyStr → Bool)
    (G D W : Finset PyStr) :
    filterOutDepsedRepo (getNonExistingFiles isfile G) D \ W = nonexistingSpec isfile G D W := by
  ext p
  simp only [filterOutDepsedRepo, getNonExistingFiles, nonexistingSpec, Finset.mem_sdiff,
    Finset.mem_filter, startswith_iff, not_exists, not_and, and_assoc]

theorem sortedList_sorted {l : List PyStr} (h : l.Nodup) : (sortedList l).Sorted (· < ·) := by
  refine List.Sorted.lt_of_le ?_ ((List.mergeSort_perm l _).nodup_iff.mpr h)
  have : (l.mergeSort fun a b : PyStr => decide (a ≤ b)).Pairwise fun a b => decide (a ≤ b) :=
    List.sorted_mergeSort
      (fun a b c hab hbc => by simpa using le_trans (by simpa using hab) (by simpa using hbc))
      (fun a b => by simpa using le_total a b) l
  simpa [sortedList] using this

@[simp] theorem mem_sortedList {l : List PyStr} {p : PyStr} : p ∈ sortedList l ↔ p ∈ l :=
  List.mem_mergeSort

@[simp] theorem mem_sortedSet {s : Finset PyStr} {p : PyStr} : p ∈ sortedSet s ↔ p ∈ s :=
  Finset.mem_sort _

theorem sortedSet_eq_nil {s : Finset PyStr} : sortedSet s = [] ↔ s = ∅ := by
  rw [← List.toFinset_eq_empty_iff, sortedSet, Finset.sort_toFinset]

theorem nodup_sortedSet_append {m n : Finset PyStr} (h : Disjoint m n) :
    (sortedSet m ++ sortedSet n).Nodup :=
  List.nodup_append.mpr ⟨Finset.sort_nodup _ _, Finset.sort_nodup _ _,
    fun p hm hn => Finset.disjoint_left.mp h (by simpa using hm) (by simpa using hn)⟩

theorem report_cases (args : Args) (host : Host) (missing nonexisting : Finset PyStr) :
    (report args host missing nonexisting).json =
        dumpJson args (sortedList (sortedSet missing ++ sortedSet nonexisting)) ∧
      ∀ msg, (report args host missing nonexisting).exit ≠ .parserError msg := by
  unfold report
  dsimp only
  by_cases hnone : sortedSet missing = [] ∧ sortedSet nonexisting = []
  · rw [if_pos hnone]
    exact ⟨rfl, nofun⟩
  · rw [if_neg hnone]
    by_cases hverbose : args.verbose = true
    · rw [if_pos hverbose]
      generalize verboseReport _ _ = verbose
      obtain ⟨more, _ | e⟩ := verbose <;> exact ⟨rfl, nofun⟩
    · rw [if_neg hverbose]
      exact ⟨rfl, nofun⟩

theorem report_exit_cases (args : Args) (host : Host) (missing nonexisting : Finset PyStr) :
    (report args host missing nonexisting).exit =
        .returned (if (missing = ∅ ∧ nonexisting = ∅) ∨ truthy args.json = true then 0 else 1) ∨
      args.verbose = true ∧ (missing ≠ ∅ ∨ nonexisting ≠ ∅) ∧
        ∃ e, (report args host missing nonexisting).exit = .raised e := by
  unfold report
  dsimp only
  by_cases hnone : sortedSet missing = [] ∧ sortedSet nonexisting = []
  · rw [if_pos hnone, if_pos (.inl (by simpa only [sortedSet_eq_nil] using hnone))]
    exact .inl rfl
  · have hfound : ¬ (missing = ∅ ∧ nonexisting = ∅) := by
      simpa only [sortedSet_eq_nil] using hnone
    rw [if_neg hnone, if_congr (or_iff_right hfound) rfl rfl]
    by_cases hverbose : args.verbose = true
    · rw [if_pos hverbose]
      generalize verboseReport _ _ = verbose
      obtain ⟨more, _ | e⟩ := verbose
      · exact .inl rfl
      · exact .inr ⟨hverbose, not_and_or.mp hfound, e, rfl⟩
    · rw [if_neg hverbose]
      exact .inl rfl

theorem lookup_parseNinjaDepsOutput_of_mem {lines : List PyStr} {out_dir f : PyStr}
    (h : f ∈ parseNinjaDepsOutput lines out_dir true) :
    (parseNinjaDepsOutput lines out_dir false).lookup f = some (referenceObjects lines f) := by
  have hsome := AList.lookup_isSome.mpr h
  rw [lookup_parseNinjaDepsOutput, Option.isSome_map'] at hsome
  rw [lookup_parseNinjaDepsOutput]
  unfold referenceDeps at hsome ⊢
  by_cases hc : excludedHeader out_dir f = false ∧ referenceObjects lines f ≠ []
  · rw [if_pos hc]; rfl
  · rw [if_neg hc] at hsome; cases hsome

theorem detailLines_deps {d : PyDict (List PyStr)} {missing : List PyStr}
    (h : ∀ f ∈ missing, f ∈ d) :
    detailLines (.deps d) missing =
      (missing.flatMap fun f => f :: ((d.lookup f).getD []).map ("   ".toList ++ ·), none) := by
  induction missing with
  | nil => rfl
  | cons f missing ih =>
      obtain ⟨ccs, hccs⟩ :=
        Option.isSome_iff_exists.mp (AList.lookup_isSome.mpr (h f (List.mem_cons_self _ _)))
      simp only [detailLines, lookupDeps, hccs, ih fun g hg => h g (List.mem_cons_of_mem _ hg),
        List.flatMap_cons, Option.getD_some, List.cons_append]

theorem report_verbose {args : Args} {host : Host} {stdout : PyStr}
    {missing nonexisting : Finset PyStr} (hverbose : args.verbose = true)
    (hagain : host.ninjaDepsAgain = .ok stdout)
    (hmissing : ∀ f ∈ missing, f ∈ parseNinjaDepsOutput (ninjaSource stdout) args.out_dir true)
    (hfound : missing ≠ ∅ ∨ nonexisting ≠ ∅) :
    report args host missing nonexisting =
      { report { args with verbose := false } host missing nonexisting with
        report := (report { args with verbose := false } host missing nonexisting).report ++
          "\nDetailed dependency info:".toList ::
            ((sortedSet missing).flatMap fun f =>
              f :: (referenceObjects (ninjaSource stdout) f).map ("   ".toList ++ ·)) ++
          "\nMissing headers sorted by number of affected object files:".toList ::
            countLines (parseNinjaDepsOutput (ninjaSource stdout) args.out_dir false)
              (sortedSet missing) } := by
  have hmem : ∀ f ∈ sortedSet missing,
      f ∈ parseNinjaDepsOutput (ninjaSource stdout) args.out_dir false := fun f hf =>
    AList.lookup_isSome.mp (by
      rw [lookup_parseNinjaDepsOutput_of_mem (hmissing f (mem_sortedSet.mp hf))]; rfl)
  have hdetail := detailLines_deps hmem
  have hlines : ((sortedSet missing).flatMap fun f => f ::
      (((parseNinjaDepsOutput (ninjaSource stdout) args.out_dir false).lookup f).getD []).map
        ("   ".toList ++ ·)) =
      (sortedSet missing).flatMap fun f =>
        f :: (referenceObjects (ninjaSource stdout) f).map ("   ".toList ++ ·) :=
    List.flatMap_congr fun f hf => by
      rw [lookup_parseNinjaDepsOutput_of_mem (hmissing f (mem_sortedSet.mp hf)), Option.getD_some]
  have hne : ¬ (sortedSet missing = [] ∧ sortedSet nonexisting = []) := by
    simpa only [sortedSet_eq_nil, not_and_or] using hfound
  simp only [report, hne, if_false, hverbose, hagain, getHeadersFromNinja, verboseReport, hdetail,
    hlines, Bool.false_eq_true, List.append_assoc, List.cons_append, if_true]
  rfl

theorem report_verbose_verboseHost :
    report { cleanArgs with verbose := true } verboseHost {"base/b.h".toList} {"base/c.h".toList} =
      { report cleanArgs verboseHost {"base/b.h".toList} {"base/c.h".toList} with
        report := (report cleanArgs verboseHost {"base/b.h".toList} {"base/c.h".toList}).report ++
          "\nDetailed dependency info:".toList ::
            ((sortedSet {"base/b.h".toList}).flatMap fun f =>
              f :: (referenceObjects (ninjaSource cleanTrace) f).map ("   ".toList ++ ·)) ++
          "\nMissing headers sorted by number of affected object files:".toList ::
            countLines (parseNinjaDepsOutput (ninjaSource cleanTrace) cleanArgs.out_dir false)
              (sortedSet {"base/b.h".toList}) } :=
  @report_verbose { cleanArgs with verbose := true } verboseHost cleanTrace _ _ rfl rfl
    (by decide) (.inl (by decide))

theorem report_verbose_extends {args : Args} {host : Host} {stdout : PyStr}
    {missing nonexisting : Finset PyStr} (hagain : host.ninjaDepsAgain = .ok stdout)
    (hmissing : ∀ f ∈ missing, f ∈ parseNinjaDepsOutput (ninjaSource stdout) args.out_dir true) :
    (report args host missing nonexisting).json =
        (report { args with verbose := false } host missing nonexisting).json ∧
      (report args host missing nonexisting).exit =
        (report { args with verbose := false } host missing nonexisting).exit ∧
      (report { args with verbose := false } host missing nonexisting).report <+:
        (report args host missing nonexisting).report := by
  by_cases hverbose : args.verbose = true
  · by_cases hfound : missing ≠ ∅ ∨ nonexisting ≠ ∅
    · rw [report_verbose hverbose hagain hmissing hfound]
      exact ⟨rfl, rfl, (List.prefix_append _ _).trans (List.prefix_append _ _)⟩
    · obtain ⟨rfl, rfl⟩ : missing = ∅ ∧ nonexisting = ∅ := by
        simpa only [not_or, not_not] using hfound
      have hnone : sortedSet (∅ : Finset PyStr) = [] := sortedSet_eq_nil.mpr rfl
      unfold report
      rw [if_pos ⟨hnone, hnone⟩, if_pos ⟨hnone, hnone⟩]
      exact ⟨rfl, rfl, List.prefix_refl _⟩
  · rw [show { args with verbose := false } = args by rw [← eq_false_of_ne_true hverbose]]
    exact ⟨rfl, rfl, List.prefix_refl _⟩

theorem keys_cleanTrace_ne_nil :
    (parseNinjaDepsOutput (ninjaSource cleanTrace) cleanArgs.out_dir true).keys ≠ [] := by
  decide

theorem isfile_keys_cleanTrace :
    ∀ f ∈ (parseNinjaDepsOutput (ninjaSource cleanTrace) cleanArgs.out_dir true).keys,
      cleanHost.isfile f = true := by
  decide

theorem not_gen_cleanDeclared :
    ∀ i ∈ filterOutDepsedRepo (getNonExistingFiles cleanHost.isfile cleanDeclared)
      (depsPrefixesSpec cleanGclient), ¬ "/gen/".toList <:+: i := by
  decide

section Checks

variable {args : Args} {host : Host} {stdout gclient_out path text : PyStr} {gn_json : JsonValue}
  {G : Finset PyStr}

theorem main_eq_reconcile (hdir : host.isdir args.out_dir = true)
    (hclean : args.skip_dirty_check = true ∨ isBuildClean host.dryRun = true) :
    main args host = reconcile args host := by
  have hclean' : (!args.skip_dirty_check && !isBuildClean host.dryRun) = false := by
    rcases hclean with h | h <;> simp [h]
  simp [main, hdir, hclean']

section FatalChecks

variable (hdir : host.isdir args.out_dir = true)
  (hclean : args.skip_dirty_check = true ∨ isBuildClean host.dryRun = true)
  (hninja : host.ninjaDeps = .ok stdout) (hgn : host.gnProject = .ok gn_json)
  (hparse : parseGNProjectJSON gn_json args.out_dir host.gnTmp = .ok G)
  (hgclient : host.gclient = .ok gclient_out)
  (hwl : args.whitelist = some path) (hpath : path ≠ []) (hread : host.read path = .ok text)
  (hne : (parseNinjaDepsOutput (ninjaSource stdout) args.out_dir true).keys ≠ [])
  (hexist : ∀ f ∈ (parseNinjaDepsOutput (ninjaSource stdout) args.out_dir true).keys,
    host.isfile f = true)
  (hgen : ∀ i ∈ filterOutDepsedRepo (getNonExistingFiles host.isfile G)
    (depsPrefixesSpec gclient_out), ¬ "/gen/".toList <:+: i)
include hdir hclean hninja hgn hparse hgclient hwl hpath hread hne hexist hgen

theorem main_eq_report :
    main args host = report args host
      (filterOutDepsedRepo
        ((parseNinjaDepsOutput (ninjaSource stdout) args.out_dir true).keys.toFinset \ G)
        (depsPrefixesSpec gclient_out) \ whiteListSpec text)
      (filterOutDepsedRepo (getNonExistingFiles host.isfile G) (depsPrefixesSpec gclient_out) \
        whiteListSpec text) := by
  have hnone : ¬ (getNonExistingFiles host.isfile
      (parseNinjaDepsOutput (ninjaSource stdout) args.out_dir true).keys.toFinset).Nonempty := by
    simp only [getNonExistingFiles, Finset.not_nonempty_iff_eq_empty, Finset.filter_eq_empty_iff,
      List.mem_toFinset]
    exact fun f hf => by simp [hexist f hf]
  have hgen' : ¬ ∃ i ∈ filterOutDepsedRepo (getNonExistingFiles host.isfile G)
      (depsPrefixesSpec gclient_out), containsStr i "/gen/".toList = true :=
    fun ⟨i, hi, h⟩ => hgen i hi (containsStr_iff.mp h)
  have hpath' : args.whitelist.filter (· ≠ []) = some path := by
    simp [hwl, Option.filter, hpath]
  rw [main_eq_reconcile hdir hclean]
  simp only [reconcile, hninja, hgn, getHeadersFromNinja, getHeadersFromGN,
    hparse, hgclient, getDepsPrefixes_ok, firstError, hnone, hne, hgen', hpath', hread,
    parseWhiteList_eq, if_false, Bool.false_eq_true]
  rfl

/-- The list `main` writes to `--json` once its fatal checks pass: strictly
increasing, and exactly the missing and the non-existing headers. -/
theorem main_json_eq_findings (hjson : truthy args.json = true) :
    ∃ L, (main args host).json = some L ∧ L.Sorted (· < ·) ∧
      ∀ p, p ∈ L ↔
        p ∈ missingSpec (parseNinjaDepsOutput (ninjaSource stdout) args.out_dir true).keys.toFinset
          G (depsPrefixesSpec gclient_out) (whiteListSpec text) ∨
        p ∈ nonexistingSpec host.isfile G (depsPrefixesSpec gclient_out) (whiteListSpec text) := by
  rw [main_eq_report hdir hclean hninja hgn hparse hgclient hwl hpath hread hne hexist hgen,
    filterOutDepsedRepo_sdiff_eq_missingSpec, filterOutDepsedRepo_sdiff_eq_nonexistingSpec,
    (report_cases _ _ _ _).1, dumpJson, if_pos hjson]
  refine ⟨_, rfl, sortedList_sorted (nodup_sortedSet_append ?_), fun p => ?_⟩
  · refine Finset.disjoint_left.mpr fun p hm hn => ?_
    exact (Finset.mem_filter.mp hm).2.1 (Finset.mem_filter.mp hn).1
  · simp only [mem_sortedList, List.mem_append, mem_sortedSet]

omit hdir hclean hninja hgn hparse hgclient hwl hpath hread hne hexist hgen in
theorem main_json_eq_findings_cleanHost :
    ∃ L, (main cleanArgs cleanHost).json = some L ∧ L.Sorted (· < ·) ∧
      ∀ p, p ∈ L ↔
        p ∈ missingSpec (parseNinjaDepsOutput (ninjaSource cleanTrace) cleanArgs.out_dir true).keys.toFinset
          cleanDeclared (depsPrefixesSpec cleanGclient) (whiteListSpec cleanWhiteList) ∨
        p ∈ nonexistingSpec cleanHost.isfile cleanDeclared (depsPrefixesSpec cleanGclient)
          (whiteListSpec cleanWhiteList) :=
  main_json_eq_findings rfl (Or.inl rfl) rfl rfl rfl rfl rfl (by decide) rfl
    keys_cleanTrace_ne_nil isfile_keys_cleanTrace not_gen_cleanDeclared rfl

/-- `main` returns 1 when some used header is missing from the build graph or some
declared header does not exist, and `--json` is not given, and 0 otherwise; only with
`--verbose` and a finding can the second deps pass make it raise instead. -/
theorem main_exit_of_checks :
    (main args host).exit = .returned
        (if (missingSpec (parseNinjaDepsOutput (ninjaSource stdout) args.out_dir true).keys.toFinset
              G (depsPrefixesSpec gclient_out) (whiteListSpec text) = ∅ ∧
            nonexistingSpec host.isfile G (depsPrefixesSpec gclient_out) (whiteListSpec text) = ∅) ∨
          truthy args.json = true then 0 else 1) ∨
      args.verbose = true ∧
        (missingSpec (parseNinjaDepsOutput (ninjaSource stdout) args.out_dir true).keys.toFinset
            G (depsPrefixesSpec gclient_out) (whiteListSpec text) ≠ ∅ ∨
          nonexistingSpec host.isfile G (depsPrefixesSpec gclient_out) (whiteListSpec text) ≠ ∅) ∧
        ∃ e, (main args host).exit = .raised e := by
  rw [main_eq_report hdir hclean hninja hgn hparse hgclient hwl hpath hread hne hexist hgen,
    filterOutDepsedRepo_sdiff_eq_missingSpec, filterOutDepsedRepo_sdiff_eq_nonexistingSpec]
  exact report_exit_cases _ _ _ _

omit hdir hclean hninja hgn hparse hgclient hwl hpath hread hne hexist hgen in
theorem main_exit_of_checks_cleanHost :
    (main { cleanArgs with json := none } cleanHost).exit = .returned
        (if (missingSpec (parseNinjaDepsOutput (ninjaSource cleanTrace) cleanArgs.out_dir true).keys.toFinset
              cleanDeclared (depsPrefixesSpec cleanGclient) (whiteListSpec cleanWhiteList) = ∅ ∧
            nonexistingSpec cleanHost.isfile cleanDeclared (depsPrefixesSpec cleanGclient)
              (whiteListSpec cleanWhiteList) = ∅) ∨
          truthy none = true then 0 else 1) ∨
      cleanArgs.verbose = true ∧
        (missingSpec (parseNinjaDepsOutput (ninjaSource cleanTrace) cleanArgs.out_dir true).keys.toFinset
            cleanDeclared (depsPrefixesSpec cleanGclient) (whiteListSpec cleanWhiteList) ≠ ∅ ∨
          nonexistingSpec cleanHost.isfile cleanDeclared (depsPrefixesSpec cleanGclient)
            (whiteListSpec cleanWhiteList) ≠ ∅) ∧
        ∃ e, (main { cleanArgs with json := none } cleanHost).exit = .raised e :=
  @main_exit_of_checks { cleanArgs with json := none } cleanHost cleanTrace cleanGclient
    "whitelist.txt".toList cleanWhiteList _ cleanDeclared rfl (Or.inl rfl) rfl rfl rfl rfl rfl
    (by decide) rfl keys_cleanTrace_ne_nil isfile_keys_cleanTrace not_gen_cleanDeclared

theorem main_verbose_extends (hagain : host.ninjaDepsAgain = .ok stdout) :
    (main args host).json = (main { args with verbose := false } host).json ∧
      (main args host).exit = (main { args with verbose := false } host).exit ∧
      (main { args with verbose := false } host).report <+: (main args host).report := by
  rw [main_eq_report hdir hclean hninja hgn hparse hgclient hwl hpath hread hne hexist hgen,
    @main_eq_report { args with verbose := false } host stdout gclient_out path text gn_json G
      hdir hclean hninja hgn hparse hgclient hwl hpath hread hne hexist hgen]
  refine report_verbose_extends hagain fun f hf => ?_
  simp only [Finset.mem_sdiff, filterOutDepsedRepo, Finset.mem_filter, List.mem_toFinset] at hf
  exact AList.mem_keys.mpr hf.1.1.1

omit hdir hclean hninja hgn hparse hgclient hwl hpath hread hne hexist hgen in
theorem main_verbose_extends_verboseHost :
    (main { cleanArgs with verbose := true } verboseHost).json =
        (main cleanArgs verboseHost).json ∧
      (main { cleanArgs with verbose := true } verboseHost).exit =
        (main cleanArgs verboseHost).exit ∧
      (main cleanArgs verboseHost).report <+:
        (main { cleanArgs with verbose := true } verboseHost).report :=
  @main_verbose_extends { cleanArgs with verbose := true } verboseHost cleanTrace cleanGclient
    "whitelist.txt".toList cleanWhiteList _ cleanDeclared rfl (Or.inl rfl) rfl rfl rfl rfl rfl
    (by decide) rfl keys_cleanTrace_ne_nil isfile_keys_cleanTrace not_gen_cleanDeclared rfl

end FatalChecks

/-- The three ways a run of `reconcile` can end: the `PrintError` of a failed check, an
exception raised before anything is written, or `report` on some findings. -/
def ReconcileEnd (args : Args) (host : Host) (o : Outcome) : Prop :=
  (∃ m, o = printError args m) ∨ (∃ e, o = ⟨none, [], .raised e⟩) ∨
    ∃ missing nonexisting, o = report args host missing nonexisting

theorem ReconcileEnd.ite_printError {c : Prop} [Decidable c] {m : PyStr} {o : Outcome}
    (ho : ReconcileEnd args host o) :
    ReconcileEnd args host (if c then printError args m else o) := by
  by_cases hc : c
  · rw [if_pos hc]; exact .inl ⟨m, rfl⟩
  · rw [if_neg hc]; exact ho

theorem reconcile_cases (args : Args) (host : Host) :
    ReconcileEnd args host (reconcile args host) := by
  unfold reconcile
  generalize getHeadersFromNinja args.out_dir true host.ninjaDeps = ninja
  generalize getHeadersFromGN args.out_dir host.gnTmp host.gnProject = gn
  generalize getDepsPrefixes host.gclient = deps
  obtain ⟨d | _, d_err⟩ := ninja
  · dsimp only
    generalize firstError [d_err, gn.2, deps.2] = err
    rcases err with _ | e
    · refine .ite_printError (.ite_printError (.ite_printError ?_))
      generalize args.whitelist.filter (· ≠ []) = whitelist
      rcases whitelist with _ | path
      · exact .inr (.inr ⟨_, _, rfl⟩)
      · dsimp only
        generalize host.read path = text
        rcases text with e | text
        · exact .inr (.inl ⟨_, rfl⟩)
        · exact .inr (.inr ⟨_, _, rfl⟩)
    · exact .inl ⟨e, rfl⟩
  · exact .inr (.inl ⟨_, rfl⟩)

theorem reconcile_json_of_parserError {msg : PyStr}
    (h : (reconcile args host).exit = .parserError msg) :
    (reconcile args host).json = dumpJson args [] := by
  rcases reconcile_cases args host with ⟨m, hm⟩ | ⟨e, he⟩ | ⟨missing, nonexisting, hr⟩
  · rw [hm]; rfl
  · rw [he] at h; cases h
  · rw [hr] at h ⊢; exact absurd h ((report_cases _ _ _ _).2 _)

theorem main_json_of_parserError {msg : PyStr}
    (h : (main args host).exit = .parserError msg) :
    (main args host).json = if host.isdir args.out_dir then dumpJson args [] else none := by
  cases hdir : host.isdir args.out_dir
  · simp [main, hdir]
  · by_cases hdirty : (!args.skip_dirty_check && !isBuildClean host.dryRun) = true
    · by_cases hjson : truthy args.json = true <;> simp [main, hdir, hdirty, hjson, dumpJson] at h ⊢
    · simp only [main, hdir, hdirty, if_false, Bool.true_eq_false, if_true] at h ⊢
      exact reconcile_json_of_parserError h

theorem main_json_of_parserError_gnFailureHost :
    (main cleanArgs gnFailureHost).json =
      if gnFailureHost.isdir cleanArgs.out_dir then dumpJson cleanArgs [] else none :=
  @main_json_of_parserError cleanArgs gnFailureHost
    "Command '['gn', 'gen', ...]' returned non-zero exit status 1".toList rfl

theorem main_returns_zero_of_json (hjson : truthy args.json = true) {n : Nat}
    (h : (main args host).exit = .returned n) : n = 0 := by
  unfold main at h
  by_cases hdir : host.isdir args.out_dir = false
  · rw [if_pos hdir] at h; cases h
  rw [if_neg hdir] at h
  by_cases hdirty : (!args.skip_dirty_check && !isBuildClean host.dryRun) = true
  · rw [if_pos hdirty, if_pos hjson] at h
    exact (Exit.returned.inj h).symm
  rw [if_neg hdirty] at h
  rcases reconcile_cases args host with ⟨m, hm⟩ | ⟨e, he⟩ | ⟨missing, nonexisting, hr⟩
  · rw [hm] at h; cases h
  · rw [he] at h; cases h
  · rw [hr] at h
    rcases report_exit_cases args host missing nonexisting with hexit | ⟨-, -, e, he⟩
    · rw [h, if_pos (.inr hjson)] at hexit
      exact Exit.returned.inj hexit
    · rw [h] at he; cases he

theorem main_exit_cleanHost (json : Option PyStr) :
    (main { cleanArgs with json := json } cleanHost).exit =
      .returned (if truthy json = true then 0 else 1) := by
  rw [@main_eq_report { cleanArgs with json := json } cleanHost cleanTrace cleanGclient
    "whitelist.txt".toList cleanWhiteList _ cleanDeclared rfl (Or.inl rfl) rfl rfl rfl rfl rfl
    (by decide) rfl keys_cleanTrace_ne_nil isfile_keys_cleanTrace not_gen_cleanDeclared]
  have hfound : ¬ (filterOutDepsedRepo
      ((parseNinjaDepsOutput (ninjaSource cleanTrace) cleanArgs.out_dir true).keys.toFinset \
        cleanDeclared) (depsPrefixesSpec cleanGclient) \ whiteListSpec cleanWhiteList = ∅ ∧
      filterOutDepsedRepo (getNonExistingFiles cleanHost.isfile cleanDeclared)
        (depsPrefixesSpec cleanGclient) \ whiteListSpec cleanWhiteList = ∅) := by
    decide
  rcases report_exit_cases { cleanArgs with json := json } cleanHost _ _ with h | ⟨h, -⟩
  · rw [h, if_congr (or_iff_right hfound) rfl rfl]
  · cases h

theorem main_returns_zero_of_json_cleanHost :
    (main { cleanArgs with json := none } cleanHost).exit = .returned 1 ∧
      (main cleanArgs cleanHost).exit = .returned 0 :=
  ⟨main_exit_cleanHost none, by
    have h := main_exit_cleanHost cleanArgs.json
    rwa [@main_returns_zero_of_json cleanArgs cleanHost rfl _ h] at h⟩

end Checks

end ChromiumBuildUtil.CheckGnHeaders.Reconcile
