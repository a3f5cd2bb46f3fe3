import ChromiumBuildUtil.Python

/-!
`ParseGNProjectJSON` of `check_gn_headers.py`, over the value `json.load` returns
for the `project.json` that `gn gen --ide=json` writes. A value of the wrong shape
raises the `KeyError`, `TypeError` or `AttributeError` Python 2 raises for it.
-/

namespace ChromiumBuildUtil.CheckGnHeaders.GnProject

open ChromiumBuildUtil.Python

/-- A value `json.load` returns. An object lists each key once, as the `dict`
`json.load` builds does; the value of a `float` is read by no modelled code. -/
inductive JsonValue
  | null
  | bool (b : Bool)
  | int (i : Int)
  | float
  | str (s : PyStr)
  | list (items : List JsonValue)
  | dict (fields : List (PyStr × JsonValue))
  deriving Repr

/-- `type(v).__name__` in Python 2, where `json.load` returns `unicode` strings and
an integer beyond a machine word is a `long`. -/
def JsonValue.typeName : JsonValue → PyStr
  | .null => "NoneType".toList
  | .bool _ => "bool".toList
  | .int i =>
      if -9223372036854775808 ≤ i ∧ i < 9223372036854775808 then "int".toList else "long".toList
  | .float => "float".toList
  | .str _ => "unicode".toList
  | .list _ => "list".toList
  | .dict _ => "dict".toList

def getItem (v : JsonValue) (key : PyStr) : Except PyExc JsonValue :=
  match v with
  | .dict fields =>
      match fields.lookup key with
      | some x => .ok x
      | none => .error (.keyError key)
  | .list _ => .error (.typeError "list indices must be integers, not str".toList)
  | .str _ => .error (.typeError "string indices must be integers, not str".toList)
  | v => .error (.typeError ("'".toList ++ v.typeName ++
      "' object has no attribute '__getitem__'".toList))

def iteritems (v : JsonValue) : Except PyExc (List (PyStr × JsonValue)) :=
  match v with
  | .dict fields => .ok fields
  | v => .error (.attributeError v.typeName "iteritems".toList)

def get (v : JsonValue) (key : PyStr) (default : JsonValue) : Except PyExc JsonValue :=
  match v with
  | .dict fields => .ok ((fields.lookup key).getD default)
  | v => .error (.attributeError v.typeName "get".toList)

/-- `sources += public` for a list `public`. -/
def extendSources (sources : JsonValue) (public : List JsonValue) : Except PyExc JsonValue :=
  match sources with
  | .list items => .ok (.list (items ++ public))
  | .str _ => .error (.typeError "coercing to Unicode: need string or buffer, list found".toList)
  | v => .error (.typeError ("unsupported operand type(s) for +=: '".toList ++ v.typeName ++
      "' and 'list'".toList))

/-- The items `for f in v` visits: a dictionary's keys, a string's characters. -/
def iterate (v : JsonValue) : Except PyExc (List JsonValue) :=
  match v with
  | .list items => .ok items
  | .dict fields => .ok (fields.map fun kv => .str kv.1)
  | .str s => .ok (s.map fun c => .str [c])
  | v => .error (.typeError ("'".toList ++ v.typeName ++ "' object is not iterable".toList))

/-- The header a root-relative source path declares: `//` stripped, and a path
under the temporary `gn gen` directory moved under `out_dir`. -/
def declaredHeader (out_dir tmp_out f : PyStr) : PyStr :=
  let f := f.drop 2
  if startswith f tmp_out then out_dir ++ f.drop tmp_out.length else f

def addSource (out_dir tmp_out : PyStr) (all_headers : Finset PyStr) (f : JsonValue) :
    Except PyExc (Finset PyStr) :=
  match f with
  | .str f =>
      if endswith f ".h".toList || endswith f ".hh".toList then
        if startswith f "//".toList then .ok (insert (declaredHeader out_dir tmp_out f) all_headers)
        else .ok all_headers
      else .ok all_headers
  | f => .error (.attributeError f.typeName "endswith".toList)

/-- One turn of `for _target, properties in gn['targets'].iteritems()`. A `public`
that is not a list, such as `"*"`, adds nothing. -/
def addTarget (out_dir tmp_out : PyStr) (all_headers : Finset PyStr)
    (target : PyStr × JsonValue) : Except PyExc (Finset PyStr) := do
  let properties := target.2
  let sources ← get properties "sources".toList (.list [])
  let public ← get properties "public".toList (.list [])
  let sources ← match public with
    | .list items => extendSources sources items
    | _ => pure sources
  let files ← iterate sources
  files.foldlM (addSource out_dir tmp_out) all_headers

def parseGNProjectJSON (gn : JsonValue) (out_dir tmp_out : PyStr) :
    Except PyExc (Finset PyStr) := do
  let targets ← getItem gn "targets".toList
  let items ← iteritems targets
  items.foldlM (addTarget out_dir tmp_out) ∅

def strings : List JsonValue → Option (List PyStr)
  | [] => some []
  | .str s :: items => (strings items).map (s :: ·)
  | _ :: _ => none

/-- The files `ParseGNProjectJSON` scans for a target: its `sources`, then its `public`
when that is a list. `none` unless `properties` is an object whose `sources` and listed
`public`, where present, are lists of strings. -/
def targetSources (properties : JsonValue) : Option (List PyStr) :=
  match properties with
  | .dict fields =>
      match (fields.lookup "sources".toList).getD (.list []),
        (fields.lookup "public".toList).getD (.list []) with
      | .list sources, .list public => strings (sources ++ public)
      | .list sources, _ => strings sources
      | _, _ => none
  | _ => none

/-- A `.h` or `.hh` file written from the source root. -/
def isRootedHeader (f : PyStr) : Bool :=
  (endswith f ".h".toList || endswith f ".hh".toList) && startswith f "//".toList

def declaredHeaders (out_dir tmp_out : PyStr) (files : List PyStr) : Finset PyStr :=
  ((files.filter isRootedHeader).map (declaredHeader out_dir tmp_out)).toFinset

theorem declaredHeaders_append (out_dir tmp_out : PyStr) (fs gs : List PyStr) :
    declaredHeaders out_dir tmp_out (fs ++ gs) =
      declaredHeaders out_dir tmp_out fs ∪ declaredHeaders out_dir tmp_out gs := by
  simp [declaredHeaders, List.toFinset_append]

theorem strings_eq_some {items : List JsonValue} {files : List PyStr}
    (h : strings items = some files) : items = files.map .str := by
  induction items generalizing files with
  | nil => cases h; rfl
  | cons v items ih =>
      cases v <;> simp only [strings, reduceCtorEq] at h
      obtain ⟨fs, hfs, rfl⟩ := Option.map_eq_some'.mp h
      rw [ih hfs, List.map_cons]

section Sources

variable (out_dir tmp_out : PyStr)

theorem addSource_str (acc : Finset PyStr) (f : PyStr) :
    addSource out_dir tmp_out acc (.str f) = .ok (acc ∪ declaredHeaders out_dir tmp_out [f]) := by
  unfold addSource declaredHeaders isRootedHeader
  dsimp only
  split_ifs <;> simp_all [Finset.insert_eq, Finset.union_comm]

theorem foldlM_addSource (files : List PyStr) (acc : Finset PyStr) :
    (files.map .str).foldlM (addSource out_dir tmp_out) acc =
      .ok (acc ∪ declaredHeaders out_dir tmp_out files) := by
  induction files generalizing acc with
  | nil => simp [declaredHeaders]
  | cons f files ih =>
      rw [List.map_cons, List.foldlM_cons, addSource_str, ok_bind, ih, Finset.union_assoc,
        ← declaredHeaders_append, List.singleton_append]

theorem addTarget_of_targetSources {target : PyStr × JsonValue} {files : List PyStr}
    (h : targetSources target.2 = some files) (acc : Finset PyStr) :
    addTarget out_dir tmp_out acc target = .ok (acc ∪ declaredHeaders out_dir tmp_out files) := by
  obtain ⟨name, properties⟩ := target
  cases properties <;> simp only [targetSources, reduceCtorEq] at h
  case dict fields =>
    simp only [addTarget, get, ok_bind]
    generalize (fields.lookup "sources".toList).getD (.list []) = S at h ⊢
    generalize (fields.lookup "public".toList).getD (.list []) = P at h ⊢
    split at h
    · simp only [extendSources, iterate, ok_bind, strings_eq_some h, foldlM_addSource]
    · split
      · rename_i hP; exact (hP _ rfl).elim
      · simp only [pure_eq_ok, iterate, ok_bind, strings_eq_some h, foldlM_addSource]
    · contradiction

theorem foldlM_addTarget {targets : List (PyStr × JsonValue)} {files : List (List PyStr)}
    (hfiles : List.Forall₂ (fun target fs => targetSources target.2 = some fs) targets files)
    (acc : Finset PyStr) :
    targets.foldlM (addTarget out_dir tmp_out) acc =
      .ok (acc ∪ declaredHeaders out_dir tmp_out files.flatten) := by
  induction hfiles generalizing acc with
  | nil => simp [declaredHeaders]
  | cons hsrc _ ih =>
      rw [List.foldlM_cons, addTarget_of_targetSources out_dir tmp_out hsrc, ok_bind, ih,
        List.flatten_cons, declaredHeaders_append, Finset.union_assoc]

end Sources

/-- For a project whose targets list their files as strings, `ParseGNProjectJSON` returns
the `.h` and `.hh` files given from the source root of every target's `sources` and listed
`public`, with the `gn gen` directory moved under `out_dir`. -/
theorem parseGNProjectJSON_eq_declaredHeaders {gn : JsonValue} {out_dir tmp_out : PyStr}
    {targets : List (PyStr × JsonValue)} {files : List (List PyStr)}
    (htargets : getItem gn "targets".toList = .ok (.dict targets))
    (hfiles : List.Forall₂ (fun target fs => targetSources target.2 = some fs) targets files) :
    parseGNProjectJSON gn out_dir tmp_out = .ok (declaredHeaders out_dir tmp_out files.flatten) := by
  rw [parseGNProjectJSON, htargets, ok_bind, iteritems, ok_bind,
    foldlM_addTarget out_dir tmp_out hfiles, Finset.empty_union]

/-- Two targets: `//base` with a header generated into the `gn gen` directory and
`"public": "*"`, and `//ui` whose only header is listed as public. -/
def twoTargets : List (PyStr × JsonValue) :=
  [("//base:base".toList, .dict [
      ("sources".toList, .list [.str "//base/a.cc".toList, .str "//base/a.h".toList,
        .str "//tmpgn/gen/base/b.h".toList]),
      ("public".toList, .str "*".toList)]),
    ("//ui:ui".toList, .dict [("public".toList, .list [.str "//ui/c.hh".toList])])]

def twoTargetProject : JsonValue := .dict [("targets".toList, .dict twoTargets)]

theorem parseGNProjectJSON_twoTargetProject :
    parseGNProjectJSON twoTargetProject "out/Release".toList "tmpgn".toList =
      .ok (declaredHeaders "out/Release".toList "tmpgn".toList
        ["//base/a.cc".toList, "//base/a.h".toList, "//tmpgn/gen/base/b.h".toList,
          "//ui/c.hh".toList]) :=
  @parseGNProjectJSON_eq_declaredHeaders twoTargetProject _ _ twoTargets
    [["//base/a.cc".toList, "//base/a.h".toList, "//tmpgn/gen/base/b.h".toList],
      ["//ui/c.hh".toList]] rfl (.cons rfl (.cons rfl .nil))

example : declaredHeaders "out/Release".toList "tmpgn".toList
    ["//base/a.cc".toList, "//base/a.h".toList, "//tmpgn/gen/base/b.h".toList,
      "//ui/c.hh".toList] =
    {"base/a.h".toList, "out/Release/gen/base/b.h".toList, "ui/c.hh".toList} := by
  decide

end ChromiumBuildUtil.CheckGnHeaders.GnProject
