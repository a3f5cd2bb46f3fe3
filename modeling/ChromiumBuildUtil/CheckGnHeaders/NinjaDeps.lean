import ChromiumBuildUtil.Python

/-!
`NinjaSource` and `ParseNinjaDepsOutput` of `check_gn_headers.py`: the output of
`ninja -t deps` is cut into lines, and each header a VALID record depends on is
collected with the object files that include it. The trace format is then stated
as records, and the parser is proved to compute exactly the map the records give.
-/

namespace ChromiumBuildUtil.CheckGnHeaders.NinjaDeps

open ChromiumBuildUtil.Python

/-- The lines `NinjaSource` yields for the output of `ninja -C out_dir -t deps`. -/
def ninjaSource (stdout : PyStr) : List PyStr := (readLines stdout).map rstrip

/-- The header a dependency line of a VALID record adds to `all_headers`, if any. -/
def headerOfLine (out_dir line : PyStr) : Option PyStr :=
  if endswith line ".h".toList || endswith line ".hh".toList then
    let f := strip line
    if startswith f "../../".toList then
      let f := f.drop 6
      if startswith f out_dir || startswith f "out".toList then none
      else if !startswith f "build".toList then some f
      else none
    else none
  else none

structure DepsScan where
  all_headers : PyDict (List PyStr)
  is_valid : Bool
  obj_file : PyStr

/-- `all_headers.setdefault(f, [])`, then `all_headers[f].append(obj_file)` unless
`skip_obj`. -/
def addHeader (skip_obj : Bool) (obj_file f : PyStr) (all_headers : PyDict (List PyStr)) :
    PyDict (List PyStr) :=
  let all_headers := setdefault f [] all_headers
  if skip_obj then all_headers
  else all_headers.insert f (((all_headers.lookup f).getD []) ++ [obj_file])

/-- One turn of the `for line in ninja_out` loop. A line that does not start with
four spaces opens a record: `line.split(':')[0]` is the text before its first `:`. -/
def depsStep (out_dir : PyStr) (skip_obj : Bool) (s : DepsScan) (line : PyStr) : DepsScan :=
  if startswith line "    ".toList then
    if !s.is_valid then s
    else match headerOfLine out_dir line with
      | some f => { s with all_headers := addHeader skip_obj s.obj_file f s.all_headers }
      | none => s
  else { s with is_valid := endswith line "(VALID)".toList, obj_file := line.takeWhile (· ≠ ':') }

def parseNinjaDepsOutput (ninja_out : List PyStr) (out_dir : PyStr) (skip_obj : Bool) :
    PyDict (List PyStr) :=
  (ninja_out.foldl (depsStep out_dir skip_obj) ⟨∅, false, []⟩).all_headers

def addHeaders (skip_obj : Bool) (d : PyDict (List PyStr)) (events : List (PyStr × PyStr)) :
    PyDict (List PyStr) :=
  events.foldl (fun d e => addHeader skip_obj e.2 e.1 d) d

/-- The events a run of dependency lines gives for a record of status `valid`
whose object file is `obj`. -/
def memberEvents (out_dir : PyStr) (valid : Bool) (obj : PyStr) (members : List PyStr) :
    List (PyStr × PyStr) :=
  if valid then members.filterMap fun m => (headerOfLine out_dir m).map (·, obj) else []

theorem lookup_addHeader (skip_obj : Bool) (obj f f' : PyStr) (d : PyDict (List PyStr)) :
    (addHeader skip_obj obj f d).lookup f' =
      if f' = f then some ((d.lookup f).getD [] ++ if skip_obj then [] else [obj])
      else d.lookup f' := by
  by_cases hf : f' = f
  · subst hf
    rcases hd : d.lookup f' with _ | v
    · have hn : f' ∉ d := AList.lookup_eq_none.mp hd
      cases skip_obj <;> simp [addHeader, lookup_setdefault, hn]
    · have hm : f' ∈ d := AList.lookup_isSome.mp (by simp [hd])
      cases skip_obj <;> simp [addHeader, lookup_setdefault, hm, hd]
  · cases skip_obj <;> simp [addHeader, lookup_setdefault, hf, AList.lookup_insert_ne hf]

theorem lookup_addHeaders (skip_obj : Bool) (d : PyDict (List PyStr))
    (events : List (PyStr × PyStr)) (f : PyStr) :
    (addHeaders skip_obj d events).lookup f =
      if events.filter (·.1 == f) = [] then d.lookup f
      else some ((d.lookup f).getD [] ++
        if skip_obj then [] else (events.filter (·.1 == f)).map Prod.snd) := by
  induction events generalizing d with
  | nil => rfl
  | cons e events ih =>
      simp only [addHeaders, List.foldl_cons] at ih ⊢
      rw [ih, lookup_addHeader, List.filter_cons]
      by_cases he : e.1 = f
      · subst he
        cases skip_obj <;> by_cases hn : events.filter (·.1 == e.1) = [] <;> simp [hn]
      · simp only [beq_iff_eq, he, Ne.symm he, if_false]

theorem addHeaders_append (skip_obj : Bool) (d : PyDict (List PyStr))
    (e₁ e₂ : List (PyStr × PyStr)) :
    addHeaders skip_obj d (e₁ ++ e₂) = addHeaders skip_obj (addHeaders skip_obj d e₁) e₂ :=
  List.foldl_append _ _ _ _

theorem memberEvents_cons (out_dir : PyStr) (valid : Bool) (obj m : PyStr) (ms : List PyStr) :
    memberEvents out_dir valid obj (m :: ms) =
      memberEvents out_dir valid obj [m] ++ memberEvents out_dir valid obj ms := by
  unfold memberEvents
  split
  · exact List.filterMap_append [m] ms _
  · rfl

theorem depsStep_of_member {out_dir : PyStr} {skip_obj : Bool} (s : DepsScan) {line : PyStr}
    (h : startswith line "    ".toList = true) :
    depsStep out_dir skip_obj s line =
      { s with all_headers :=
          addHeaders skip_obj s.all_headers (memberEvents out_dir s.is_valid s.obj_file [line]) } := by
  rcases s with ⟨d, _ | _, o⟩ <;> simp only [depsStep, h, memberEvents, if_true]
  · rfl
  · simp only [Bool.not_true, Bool.false_eq_true, if_false, List.filterMap_cons,
      List.filterMap_nil]
    cases headerOfLine out_dir line <;> rfl

theorem depsStep_of_record {out_dir : PyStr} {skip_obj : Bool} (s : DepsScan) {line : PyStr}
    (h : startswith line "    ".toList = false) :
    depsStep out_dir skip_obj s line =
      { s with is_valid := endswith line "(VALID)".toList,
               obj_file := line.takeWhile (· ≠ ':') } := by
  simp only [depsStep, h, Bool.false_eq_true, if_false]

/-- A record of a dependency trace: the text before the first `:` of its opening
line, whether that line ends in `(VALID)`, and the dependency lines after it. -/
structure TraceRecord where
  obj : PyStr
  valid : Bool
  members : List PyStr

/-- A trace cut into records. A line that does not begin with four spaces opens a
record, and a line that does belongs to the record opened last; the first component
holds the lines before the first record. -/
def traceRecords : List PyStr → List PyStr × List TraceRecord
  | [] => ([], [])
  | line :: rest =>
      match traceRecords rest with
      | (pending, records) =>
          if startswith line "    ".toList then (line :: pending, records)
          else ([], ⟨line.takeWhile (· ≠ ':'), endswith line "(VALID)".toList, pending⟩ :: records)

theorem traceRecords_of_member {line : PyStr} (rest : List PyStr)
    (h : startswith line "    ".toList = true) :
    traceRecords (line :: rest) = (line :: (traceRecords rest).1, (traceRecords rest).2) := by
  simp only [traceRecords, h, if_true]

theorem traceRecords_of_record {line : PyStr} (rest : List PyStr)
    (h : startswith line "    ".toList = false) :
    traceRecords (line :: rest) =
      ([], ⟨line.takeWhile (· ≠ ':'), endswith line "(VALID)".toList, (traceRecords rest).1⟩ ::
        (traceRecords rest).2) := by
  simp only [traceRecords, h, Bool.false_eq_true, if_false]

def recordEvents (out_dir : PyStr) (records : List TraceRecord) : List (PyStr × PyStr) :=
  records.flatMap fun r => memberEvents out_dir r.valid r.obj r.members

theorem foldl_depsStep (out_dir : PyStr) (skip_obj : Bool) (lines : List PyStr) (s : DepsScan) :
    (lines.foldl (depsStep out_dir skip_obj) s).all_headers =
      addHeaders skip_obj s.all_headers
        (memberEvents out_dir s.is_valid s.obj_file (traceRecords lines).1 ++
          recordEvents out_dir (traceRecords lines).2) := by
  induction lines generalizing s with
  | nil => simp [traceRecords, memberEvents, recordEvents, addHeaders]
  | cons line rest ih =>
      rw [List.foldl_cons, ih]
      cases h : startswith line "    ".toList
      · rw [depsStep_of_record _ h, traceRecords_of_record _ h]
        simp [memberEvents, recordEvents]
      · rw [depsStep_of_member _ h, traceRecords_of_member _ h,
          memberEvents_cons _ _ _ _ (traceRecords rest).1]
        simp only [addHeaders_append]

theorem parseNinjaDepsOutput_eq_addHeaders (ninja_out : List PyStr) (out_dir : PyStr)
    (skip_obj : Bool) :
    parseNinjaDepsOutput ninja_out out_dir skip_obj =
      addHeaders skip_obj ∅ (recordEvents out_dir (traceRecords ninja_out).2) := by
  simp [parseNinjaDepsOutput, foldl_depsStep, memberEvents]

/-- Dependency line `m` names header `f`: it ends in `.h` or `.hh` and strips to
`../../` followed by `f`. -/
def namesHeader (f m : PyStr) : Bool :=
  (endswith m ".h".toList || endswith m ".hh".toList) && strip m == "../../".toList ++ f

def excludedHeader (out_dir f : PyStr) : Bool :=
  startswith f out_dir || startswith f "out".toList || startswith f "build".toList

/-- The objects of the VALID records, in input order, once for each of their lines
that names `f`. -/
def referenceObjects (lines : List PyStr) (f : PyStr) : List PyStr :=
  (traceRecords lines).2.flatMap fun r =>
    if r.valid then (r.members.filter (namesHeader f)).map fun _ => r.obj else []

/-- What the trace maps `f` to: its objects, when `f` is outside `out_dir`, `out`
and `build` and some VALID record names it. -/
def referenceDeps (lines : List PyStr) (out_dir f : PyStr) : Option (List PyStr) :=
  if excludedHeader out_dir f = false ∧ referenceObjects lines f ≠ [] then
    some (referenceObjects lines f)
  else none

theorem eq_prefix_append_iff {p s f : PyStr} : s = p ++ f ↔ p <+: s ∧ s.drop p.length = f := by
  constructor
  · rintro rfl
    simp
  · rintro ⟨⟨t, rfl⟩, rfl⟩
    simp

theorem headerOfLine_eq_some {out_dir line f : PyStr} :
    headerOfLine out_dir line = some f ↔
      namesHeader f line = true ∧ excludedHeader out_dir f = false := by
  have hlen : ("../../".toList).length = 6 := rfl
  unfold headerOfLine namesHeader excludedHeader
  dsimp only
  by_cases hext : (endswith line ".h".toList || endswith line ".hh".toList) = true
  · by_cases hpre : startswith (strip line) "../../".toList = true
    · simp only [hext, hpre, if_true, Bool.true_and, beq_iff_eq, eq_prefix_append_iff, hlen]
      simp only [startswith_iff] at hpre
      simp only [hpre, true_and]
      constructor
      · intro h
        split_ifs at h
        simp_all
      · rintro ⟨rfl, h⟩
        simp_all
    · have : ¬ strip line = "../../".toList ++ f := fun h => hpre (by simp [h])
      simp only [startswith_iff] at hpre
      simp_all
  · simp_all

theorem memberEvents_single (out_dir f : PyStr) (valid : Bool) (obj m : PyStr) :
    ((memberEvents out_dir valid obj [m]).filter (·.1 == f)).map Prod.snd =
      if valid = true ∧ headerOfLine out_dir m = some f then [obj] else [] := by
  cases valid
  · simp [memberEvents]
  · rcases h : headerOfLine out_dir m with _ | g
    · simp [memberEvents, h]
    · by_cases hg : g = f <;> simp [memberEvents, h, List.filter_cons, hg]

theorem memberEvents_objects (out_dir f : PyStr) (valid : Bool) (obj : PyStr) (ms : List PyStr) :
    ((memberEvents out_dir valid obj ms).filter (·.1 == f)).map Prod.snd =
      if excludedHeader out_dir f = false ∧ valid = true then
        (ms.filter (namesHeader f)).map fun _ => obj
      else [] := by
  induction ms with
  | nil => simp [memberEvents]
  | cons m ms ih =>
      rw [memberEvents_cons, List.filter_append, List.map_append, ih, memberEvents_single]
      simp only [headerOfLine_eq_some]
      by_cases hx : excludedHeader out_dir f = false <;> cases valid <;>
        by_cases hn : namesHeader f m = true <;> simp [hx, hn, List.filter_cons]

theorem recordEvents_objects (out_dir f : PyStr) (records : List TraceRecord) :
    ((recordEvents out_dir records).filter (·.1 == f)).map Prod.snd =
      if excludedHeader out_dir f = false then
        records.flatMap fun r =>
          if r.valid then (r.members.filter (namesHeader f)).map fun _ => r.obj else []
      else [] := by
  induction records with
  | nil => simp [recordEvents]
  | cons r rs ih =>
      simp only [recordEvents, List.flatMap_cons, List.filter_append, List.map_append] at ih ⊢
      rw [ih, memberEvents_objects]
      by_cases hx : excludedHeader out_dir f = false <;> cases r.valid <;> simp [hx]

theorem lookup_parseNinjaDepsOutput (lines : List PyStr) (out_dir : PyStr) (skip_obj : Bool)
    (f : PyStr) :
    (parseNinjaDepsOutput lines out_dir skip_obj).lookup f =
      (referenceDeps lines out_dir f).map fun objs => if skip_obj then [] else objs := by
  have h : ((recordEvents out_dir (traceRecords lines).2).filter (·.1 == f)).map Prod.snd =
      if excludedHeader out_dir f = false then referenceObjects lines f else [] :=
    recordEvents_objects out_dir f _
  have hnil : (recordEvents out_dir (traceRecords lines).2).filter (·.1 == f) = [] ↔
      (excludedHeader out_dir f = false → referenceObjects lines f = []) := by
    rw [← List.map_eq_nil_iff (f := Prod.snd), h]
    split_ifs with hx <;> simp [hx]
  rw [parseNinjaDepsOutput_eq_addHeaders, lookup_addHeaders, h, referenceDeps]
  by_cases hx : excludedHeader out_dir f = false <;>
    by_cases hr : referenceObjects lines f = [] <;> simp [hnil, hx, hr]

/-- `ParseNinjaDepsOutput` computes the map the trace describes, and its fast pass
(`skip_obj`) has the same keys with empty values. -/
theorem parseNinjaDepsOutput_eq_reference (lines : List PyStr) (out_dir f : PyStr) :
    (parseNinjaDepsOutput lines out_dir false).lookup f = referenceDeps lines out_dir f ∧
      (parseNinjaDepsOutput lines out_dir true).lookup f =
        (referenceDeps lines out_dir f).map fun _ => [] := by
  simp [lookup_parseNinjaDepsOutput]

example : (parseNinjaDepsOutput
    ["obj/a.o: #deps 2, deps mtime 1 (VALID)".toList, "    ../../base/a.h".toList,
      "    ../../build/config.h".toList, "obj/b.o: #deps 1, deps mtime 1 (STALE)".toList,
      "    ../../base/b.h".toList] "out/Release".toList false).lookup "base/a.h".toList =
    some ["obj/a.o".toList] := by decide

end ChromiumBuildUtil.CheckGnHeaders.NinjaDeps
