import ChromiumBuildUtil.BinarySizes.Apportion

/-!
The budget check and the run of `fuchsia/binary_sizes.py`. `GetTestStatus` compares
each size limit with the compressed size of the package its metric names,
`GetBinarySizes` adds the optional total, and `main` reports CRASH whenever measuring
the packages or building the dashboard histogram raised.
-/

namespace ChromiumBuildUtil.BinarySizes.Budget

open ChromiumBuildUtil.Python
open ChromiumBuildUtil.BinarySizes.Blobs
open ChromiumBuildUtil.BinarySizes.Apportion

inductive Status
  | PASS
  | FAIL
  | CRASH
  deriving DecidableEq, Repr

/-- The keys of the sizes configuration that the script reads. A limit is a JSON
integer. -/
structure SizesConfig where
  far_files : List PyStr
  size_limits : PyDict Int
  far_total_name : Option PyStr

/-- `\w` of Python 2's `re` without the `UNICODE` flag: `[a-zA-Z0-9_]`. -/
def isWordChar (c : Char) : Bool := c.isAlphanum || c == '_'

/-- The backtracking of the greedy `\w+` in `(?P<name>\w+)_compressed`: the group is
the longest prefix of at most `k` characters that `_compressed` follows. -/
def backtrackName (metric : PyStr) : Nat → Option PyStr
  | 0 => none
  | k + 1 =>
      if startswith (metric.drop (k + 1)) "_compressed".toList then some (metric.take (k + 1))
      else backtrackName metric k

def matchCompressedName (metric : PyStr) : Option PyStr :=
  backtrackName metric (metric.takeWhile isWordChar).length

/-- The package a size limit is about: `match.group('name') if match else metric`. -/
def packageNameOf (metric : PyStr) : PyStr := (matchCompressedName metric).getD metric

def limitStatus (package_sizes : PyDict PackageSizes) (metric : PyStr) (limit : Int) :
    Except PyExc Status :=
  let package_name := packageNameOf metric
  match package_sizes.lookup package_name with
  | none => .error (.notInSizes package_name)
  | some size => .ok (if size.compressed ≤ limit then .PASS else .FAIL)

def crashStatus : PyDict Status := (∅ : PyDict Status).insert "binary_sizes".toList .CRASH

def getTestStatus (package_sizes : PyDict PackageSizes) (sizes_config : SizesConfig)
    (test_completed : Bool) : Except PyExc (Bool × PyDict Status) := do
  let test_status ←
    if test_completed then
      sizes_config.size_limits.entries.foldlM
        (fun test_status e => (limitStatus package_sizes e.1 e.2).map (test_status.insert e.1)) ∅
    else pure crashStatus
  pure (test_status.entries.all (·.2 == .PASS), test_status)

/-- `GetBinarySizes`, given the scratch directory `tempfile.mkdtemp()` made. -/
def getBinarySizes (host : Host) (build_out_dir extract_dir : PyStr) (sizes_config : SizesConfig) :
    Except PyExc (PyDict PackageSizes) := do
  let package_sizes ← getPackageSizes host sizes_config.far_files build_out_dir extract_dir
  match sizes_config.far_total_name with
  | none => pure package_sizes
  | some far_total_name =>
      let compressed := (package_sizes.entries.map (·.2.compressed)).sum
      let uncompressed := (package_sizes.entries.map (·.2.uncompressed)).sum
      pure (package_sizes.insert far_total_name ⟨compressed, uncompressed⟩)

inductive HistogramEntry
  | diagnostic (sizes_guid : PyStr)
  /-- `CreateSizesHistogramItem(name, size, sizes_guid)`; its `running` statistics,
  which hold `math.log(size)`, are left out. -/
  | item (name : PyStr) (size : ℚ) (sizes_guid : PyStr)

/-- `CreateSizesHistogramItem`: `math.log(size)` raises for a size that is not positive. -/
def createSizesHistogramItem (name : PyStr) (size : ℚ) (sizes_guid : PyStr) :
    Except PyExc HistogramEntry :=
  if size ≤ 0 then .error (.valueError "math domain error".toList) else .ok (.item name size sizes_guid)

def createSizesHistogram (sizes_guid : PyStr) (package_sizes : PyDict PackageSizes) :
    Except PyExc (List HistogramEntry) :=
  package_sizes.entries.foldlM
    (fun histogram p => do
      let compressed ← createSizesHistogramItem (p.1 ++ "_compressed".toList) p.2.compressed sizes_guid
      let uncompressed ←
        createSizesHistogramItem (p.1 ++ "_uncompressed".toList) p.2.uncompressed sizes_guid
      pure (histogram ++ [compressed, uncompressed]))
    [.diagnostic sizes_guid]

structure Args where
  build_out_dir : PyStr
  output_dir : Option PyStr := none

/-- What `main` reads from the machine: what `GetBlobs` reads, `os.path.isdir`, the
sizes file as `json.load` returns it, the directory `tempfile.mkdtemp()` makes in
`GetBinarySizes`, and the `uuid.uuid1()` of `CreateSizesHistogram`. -/
structure MainHost where
  blobs : Host
  isdir : PyStr → Bool
  sizes_config : SizesConfig
  extract_dir : PyStr
  sizes_guid : PyStr

/-- How a run of `main` ends, with what it writes to the results files. -/
structure Outcome where
  test_completed : Bool
  test_status : PyDict Status
  package_sizes : PyDict PackageSizes
  sizes_histogram : List HistogramEntry
  exit : Exit

/-- The `try` block of `main`: its bare `except` catches every exception, and what
was assigned before the exception is kept. -/
def measure (host : MainHost) (build_out_dir : PyStr) :
    Bool × PyDict PackageSizes × List HistogramEntry :=
  match getBinarySizes host.blobs build_out_dir host.extract_dir host.sizes_config with
  | .error _ => (false, ∅, [])
  | .ok package_sizes =>
      match createSizesHistogram host.sizes_guid package_sizes with
      | .error _ => (false, package_sizes, [])
      | .ok sizes_histogram => (true, package_sizes, sizes_histogram)

/-- `main` after argument parsing. `args.histogram_path` is not an option of the
parser, so a truthy `--output-dir` raises. -/
def main (args : Args) (host : MainHost) : Outcome :=
  let fail := fun e : PyExc => Outcome.mk false ∅ ∅ [] (.raised e)
  if truthy args.output_dir then fail (.attributeError "Namespace".toList "histogram_path".toList)
  else if host.isdir args.build_out_dir = false then
    fail (.exception ("Could not find build output directory \"".toList ++ args.build_out_dir ++
      "\".".toList))
  else
    match host.sizes_config.far_files.find?
        fun f => host.blobs.isfile (pathJoin args.build_out_dir f) = false with
    | some f =>
        fail (.exception ("Could not find FAR file \"".toList ++ pathJoin args.build_out_dir f ++
          "\".".toList))
    | none =>
        let (test_completed, package_sizes, sizes_histogram) := measure host args.build_out_dir
        match getTestStatus package_sizes host.sizes_config test_completed with
        | .error e => ⟨test_completed, ∅, package_sizes, sizes_histogram, .raised e⟩
        | .ok (all_tests_passed, test_status) =>
            ⟨test_completed, test_status, package_sizes, sizes_histogram,
              .returned (if all_tests_passed then 0 else 1)⟩

theorem backtrackName_append_compressed {n : PyStr} (hn : n ≠ []) :
    ∀ j ≤ 11, backtrackName (n ++ "_compressed".toList) (n.length + j) = some n
  | 0, _ => by
      obtain ⟨k, hk⟩ : ∃ k, n.length = k + 1 := ⟨n.length - 1, by
        have := List.length_pos.mpr hn
        omega⟩
      rw [Nat.add_zero, hk, backtrackName, if_pos (by rw [← hk, List.drop_left]; simp), ← hk,
        List.take_left]
  | j + 1, hj => by
      have hshort :
          ¬ "_compressed".toList <+: (n ++ "_compressed".toList).drop (n.length + j + 1) :=
        fun h => by
          have := h.length_le
          rw [Nat.add_assoc, List.drop_append] at this
          simp at this
          omega
      rw [← Nat.add_assoc, backtrackName, if_neg (mt startswith_iff.mp hshort),
        backtrackName_append_compressed hn j (by omega)]

theorem packageNameOf_append_compressed {n : PyStr} (hn : n ≠ [])
    (hw : ∀ c ∈ n, isWordChar c = true) : packageNameOf (n ++ "_compressed".toList) = n := by
  have hsuffix : ∀ c ∈ "_compressed".toList, isWordChar c = true := by decide
  have hall : (n ++ "_compressed".toList).takeWhile isWordChar = n ++ "_compressed".toList :=
    List.takeWhile_eq_self_iff.mpr fun c hc => by
      rcases List.mem_append.mp hc with hc | hc
      · exact hw c hc
      · exact hsuffix c hc
  rw [packageNameOf, matchCompressedName, hall, List.length_append,
    show "_compressed".toList.length = 11 from rfl, backtrackName_append_compressed hn _ le_rfl]
  rfl

theorem packageNameOf_web_engine_compressed :
    packageNameOf ("web_engine".toList ++ "_compressed".toList) = "web_engine".toList :=
  packageNameOf_append_compressed (by decide) (by decide)

example : packageNameOf "foo_compressed_v2".toList = "foo".toList := by decide

def webEngineLimit : SizesConfig :=
  ⟨["web_engine.far".toList], AList.singleton "web_engine_compressed".toList 1000000, none⟩

def webEngineSizes : PyDict PackageSizes := AList.singleton "web_engine".toList ⟨360448, 900000⟩

/-- `webEngineLimit` with a limit on `cast_runner` too, a package it does not measure. -/
def castRunnerLimit : SizesConfig :=
  { webEngineLimit with
    size_limits := webEngineLimit.size_limits.insert "cast_runner_compressed".toList 500000 }

section TestStatus

variable {package_sizes : PyDict PackageSizes} {sizes_config : SizesConfig}

theorem limitStatus_of_lookup {metric : PyStr} {size : PackageSizes} (limit : Int)
    (h : package_sizes.lookup (packageNameOf metric) = some size) :
    limitStatus package_sizes metric limit = .ok (if size.compressed ≤ limit then .PASS else .FAIL) := by
  simp [limitStatus, h]

theorem getTestStatus_of_not_mem
    (h : ∃ m ∈ sizes_config.size_limits, packageNameOf m ∉ package_sizes) :
    ∃ e, getTestStatus package_sizes sizes_config true = .error e := by
  obtain ⟨m, hm, hmiss⟩ := h
  obtain ⟨limit, hlimit⟩ := Option.isSome_iff_exists.mp (AList.lookup_isSome.mpr hm)
  obtain ⟨e, he⟩ :=
    foldlM_insert_of_error (limitStatus package_sizes) sizes_config.size_limits.entries ∅
    ⟨⟨m, limit⟩, AList.mem_lookup_iff.mp hlimit, .notInSizes (packageNameOf m),
      by simp [limitStatus, AList.lookup_eq_none.mpr hmiss]⟩
  exact ⟨e, by rw [getTestStatus, if_pos rfl, he]; rfl⟩

theorem getTestStatus_of_not_mem_castRunnerLimit :
    ∃ e, getTestStatus webEngineSizes castRunnerLimit true = .error e :=
  getTestStatus_of_not_mem ⟨"cast_runner_compressed".toList, by decide, by decide⟩

theorem all_PASS_iff (test_status : PyDict Status) :
    (test_status.entries.all fun e => e.2 == .PASS) = true ↔
      ∀ m s, test_status.lookup m = some s → s = .PASS := by
  simp only [List.all_eq_true, beq_iff_eq]
  exact ⟨fun h m s hs => h ⟨m, s⟩ (AList.mem_lookup_iff.mp hs),
    fun h e he => h e.1 e.2 (AList.mem_lookup_iff.mpr he)⟩

theorem getTestStatus_passed_iff {test_completed all_tests_passed : Bool}
    {test_status : PyDict Status}
    (h : getTestStatus package_sizes sizes_config test_completed =
      .ok (all_tests_passed, test_status)) :
    all_tests_passed = true ↔
      test_completed = true ∧ ∀ m s, test_status.lookup m = some s → s = .PASS := by
  cases test_completed with
  | false =>
      obtain ⟨rfl, -⟩ := Prod.mk.inj (Except.ok.inj h)
      exact iff_of_false Bool.false_ne_true fun h => Bool.false_ne_true h.1
  | true =>
      obtain ⟨_, -, h⟩ := bind_eq_ok.mp h
      obtain ⟨rfl, rfl⟩ := Prod.mk.inj (Except.ok.inj h)
      rw [all_PASS_iff]
      exact (and_iff_right rfl).symm

end TestStatus

/-- A limit on `foo_compressed_v2` raises although `foo_compressed_v2` was measured. -/
theorem getTestStatus_foo_compressed_v2 :
    getTestStatus (AList.singleton "foo_compressed_v2".toList ⟨50, 50⟩)
      ⟨[], AList.singleton "foo_compressed_v2".toList 100, none⟩ true =
      .error (.notInSizes "foo".toList) := rfl

theorem compressed_nonneg_of_getPackageSizes_ok {host : Host} {far_files : List PyStr}
    {build_out_dir extract_dir : PyStr} {package_sizes : PyDict PackageSizes}
    (h : getPackageSizes host far_files build_out_dir extract_dir = .ok package_sizes) :
    ∀ p ∈ package_sizes.entries, 0 ≤ p.2.compressed := by
  obtain ⟨package_blobs, -, rfl⟩ := getPackageSizes_eq_ok h
  intro p hp
  rw [apportion_entries, List.mem_reverse, List.mem_map] at hp
  obtain ⟨q, -, rfl⟩ := hp
  rw [packageSize_eq]
  exact List.sum_nonneg fun x hx => by
    obtain ⟨e, -, rfl⟩ := List.mem_map.mp hx
    exact div_nonneg (Nat.cast_nonneg _) (Nat.cast_nonneg _)

theorem compressed_nonneg_of_getBinarySizes_ok {host : Host} {build_out_dir extract_dir : PyStr}
    {sizes_config : SizesConfig} {package_sizes : PyDict PackageSizes}
    (h : getBinarySizes host build_out_dir extract_dir sizes_config = .ok package_sizes) :
    ∀ p ∈ package_sizes.entries, 0 ≤ p.2.compressed := by
  unfold getBinarySizes at h
  cases hp : getPackageSizes host sizes_config.far_files build_out_dir extract_dir with
  | error e => rw [hp] at h; cases h
  | ok ps =>
      have hps := compressed_nonneg_of_getPackageSizes_ok hp
      rw [hp] at h
      cases htotal : sizes_config.far_total_name with
      | none => rw [htotal] at h; cases h; exact hps
      | some far_total_name =>
          rw [htotal] at h
          cases h
          intro p hp'
          rw [AList.insert_entries, List.mem_cons] at hp'
          rcases hp' with rfl | hp'
          · exact List.sum_nonneg fun x hx => by
              obtain ⟨q, hq, rfl⟩ := List.mem_map.mp hx
              exact hps q hq
          · exact hps p (List.kerase_sublist _ _ |>.subset hp')

theorem getBinarySizes_total {host : Host} {build_out_dir extract_dir : PyStr}
    {sizes_config : SizesConfig} {far_total_name : PyStr} {package_blobs : PyDict (PyDict Blob)}
    (hcompress : ∀ d d' blob_hash,
      host.compress (pathJoin d blob_hash) = host.compress (pathJoin d' blob_hash))
    (hgetsize : ∀ d d' blob_hash,
      host.getsize (pathJoin d blob_hash) = host.getsize (pathJoin d' blob_hash))
    (htotal : sizes_config.far_total_name = some far_total_name)
    (hloop : packageBlobs host sizes_config.far_files build_out_dir extract_dir = .ok package_blobs)
    (hname : NamesMatchHashes package_blobs) :
    ∃ total, getBinarySizes host build_out_dir extract_dir sizes_config =
        .ok ((apportion package_blobs).insert far_total_name total) ∧
      total.compressed = ∑ h ∈ ((blobOccurrences package_blobs).map (·.2.hash)).toFinset,
        blobCompressedSize package_blobs h := by
  refine ⟨⟨((apportion package_blobs).entries.map (·.2.compressed)).sum,
      ((apportion package_blobs).entries.map (·.2.uncompressed)).sum⟩, ?_,
    sum_apportion_compressed (contentAddressed_of_packageBlobs hcompress hgetsize hloop) hname⟩
  unfold getBinarySizes
  rw [getPackageSizes_of_packageBlobs hloop, ok_bind, htotal]
  rfl

def libcTotalConfig : SizesConfig :=
  ⟨["web_engine.far".toList, "cast_runner.far".toList], ∅, some "total".toList⟩

theorem getBinarySizes_total_libcHost :
    NamesMatchHashes libcHostTables ∧
      ∃ total, getBinarySizes libcHost "out/Release".toList "/tmp/sizes".toList libcTotalConfig =
          .ok ((apportion libcHostTables).insert "total".toList total) ∧
        total.compressed = ∑ h ∈ ((blobOccurrences libcHostTables).map (·.2.hash)).toFinset,
          blobCompressedSize libcHostTables h :=
  ⟨by decide, @getBinarySizes_total libcHost "out/Release".toList "/tmp/sizes".toList
    libcTotalConfig "total".toList libcHostTables (fun _ _ _ => rfl) (fun _ _ _ => rfl) rfl
    packageBlobs_libcHost (by decide)⟩

theorem getBinarySizes_perm {host : Host} {build_out_dir extract_dir : PyStr}
    {sizes_config : SizesConfig} {far_files : List PyStr} {package_sizes : PyDict PackageSizes}
    (hperm : far_files.Perm sizes_config.far_files)
    (hrun : getBinarySizes host build_out_dir extract_dir sizes_config = .ok package_sizes) :
    ∃ package_sizes', getBinarySizes host build_out_dir extract_dir
        { sizes_config with far_files := far_files } = .ok package_sizes' ∧
      ∀ name, sizes_config.far_total_name ≠ some name →
        package_sizes'.lookup name = package_sizes.lookup name := by
  obtain ⟨ps, hps, hrun⟩ := bind_eq_ok.mp hrun
  obtain ⟨ps', hps', hlookup⟩ := getPackageSizes_perm hperm.symm hps
  unfold getBinarySizes
  dsimp only
  rw [hps', ok_bind]
  cases htotal : sizes_config.far_total_name with
  | none =>
      rw [htotal] at hrun
      refine ⟨_, rfl, fun name _ => ?_⟩
      rw [← Except.ok.inj hrun]
      exact hlookup name
  | some far_total_name =>
      rw [htotal] at hrun
      refine ⟨_, rfl, fun name hn => ?_⟩
      have hn : name ≠ far_total_name := fun h => hn (h ▸ rfl)
      rw [← Except.ok.inj hrun, AList.lookup_insert_ne hn, AList.lookup_insert_ne hn, hlookup]

def libcTotalSizes : PyDict PackageSizes :=
  (apportion libcHostTables).insert "total".toList
    ⟨((apportion libcHostTables).entries.map (·.2.compressed)).sum,
      ((apportion libcHostTables).entries.map (·.2.uncompressed)).sum⟩

theorem getBinarySizes_perm_libcHost :
    ∃ package_sizes', getBinarySizes libcHost "out/Release".toList "/tmp/sizes".toList
        { libcTotalConfig with far_files := ["cast_runner.far".toList, "web_engine.far".toList] } =
          .ok package_sizes' ∧
      ∀ name, libcTotalConfig.far_total_name ≠ some name →
        package_sizes'.lookup name = libcTotalSizes.lookup name :=
  @getBinarySizes_perm libcHost "out/Release".toList "/tmp/sizes".toList libcTotalConfig
    ["cast_runner.far".toList, "web_engine.far".toList] libcTotalSizes (.swap _ _ _) rfl

theorem createSizesHistogramItem_cases (name : PyStr) (size : ℚ) (sizes_guid : PyStr) :
    (0 < size ∧ createSizesHistogramItem name size sizes_guid = .ok (.item name size sizes_guid)) ∨
      (size ≤ 0 ∧ createSizesHistogramItem name size sizes_guid =
        .error (.valueError "math domain error".toList)) := by
  unfold createSizesHistogramItem
  split_ifs with h
  · exact .inr ⟨h, rfl⟩
  · exact .inl ⟨lt_of_not_le h, rfl⟩

theorem createSizesHistogram_eq (sizes_guid : PyStr) (package_sizes : PyDict PackageSizes) :
    createSizesHistogram sizes_guid package_sizes =
      if ∀ p ∈ package_sizes.entries, 0 < p.2.compressed ∧ (0 : ℚ) < p.2.uncompressed then
        .ok ([.diagnostic sizes_guid] ++ package_sizes.entries.flatMap fun p =>
          [.item (p.1 ++ "_compressed".toList) p.2.compressed sizes_guid,
            .item (p.1 ++ "_uncompressed".toList) p.2.uncompressed sizes_guid])
      else .error (.valueError "math domain error".toList) := by
  unfold createSizesHistogram
  generalize [HistogramEntry.diagnostic sizes_guid] = acc
  induction package_sizes.entries generalizing acc with
  | nil => simp
  | cons p l ih =>
      have hp := List.mem_cons_self p l
      rw [List.foldlM_cons]
      rcases createSizesHistogramItem_cases (p.1 ++ "_compressed".toList) p.2.compressed sizes_guid
        with ⟨hc, hce⟩ | ⟨hc, hce⟩
      · rcases createSizesHistogramItem_cases (p.1 ++ "_uncompressed".toList) p.2.uncompressed
          sizes_guid with ⟨hu, hue⟩ | ⟨hu, hue⟩
        · rw [hce, ok_bind, hue, ok_bind, pure_bind, ih, List.flatMap_cons, List.append_assoc]
          simp only [List.forall_mem_cons, hc, hu, and_self, true_and]
        · rw [hce, ok_bind, hue, error_bind, error_bind, if_neg fun h => not_lt.mpr hu (h p hp).2]
      · rw [hce, error_bind, error_bind, if_neg fun h => not_lt.mpr hc (h p hp).1]

theorem createSizesHistogram_ok_iff (sizes_guid : PyStr) (package_sizes : PyDict PackageSizes) :
    (∃ histogram, createSizesHistogram sizes_guid package_sizes = .ok histogram) ↔
      ∀ p ∈ package_sizes.entries, 0 < p.2.compressed ∧ (0 : ℚ) < p.2.uncompressed := by
  rw [createSizesHistogram_eq]
  by_cases hpos : ∀ p ∈ package_sizes.entries, 0 < p.2.compressed ∧ (0 : ℚ) < p.2.uncompressed
  · rw [if_pos hpos]
    exact iff_of_true ⟨_, rfl⟩ hpos
  · rw [if_neg hpos]
    exact iff_of_false (fun ⟨_, h⟩ => nomatch h) hpos

/-- A machine on which the one blob of `web_engine.far` is `icudtl.dat`, which
`GetBlobs` excludes. -/
def icuOnlyHost : MainHost where
  blobs :=
    { far_tool := "far".toList
      compressor_path := "blobfs-compression".toList
      isfile := fun _ => true
      farExtract := fun _ _ => .ok ()
      read := fun _ => .ok "icudtl.dat=1f\n".toList
      sdkWalk := []
      compress := fun _ => ⟨0, "Wrote 8192 bytes (50% compression)".toList⟩
      getsize := fun _ => .ok 16384 }
  isdir := fun _ => true
  sizes_config :=
    ⟨["web_engine.far".toList], AList.singleton "web_engine_compressed".toList 1000000, none⟩
  extract_dir := "/tmp/sizes".toList
  sizes_guid := "guid".toList

def icuOnlySizes : PyDict PackageSizes := AList.singleton "web_engine".toList ⟨0, 0⟩

def libcMainHost : MainHost :=
  ⟨libcHost, fun _ => true, webEngineLimit, "/tmp/sizes".toList, "guid".toList⟩

def libcNoLimitHost : MainHost :=
  { libcMainHost with sizes_config := ⟨["web_engine.far".toList], ∅, none⟩ }

def libcWebEngineTables : PyDict (PyDict Blob) :=
  (∅ : PyDict (PyDict Blob)).insert "web_engine".toList libcBlobs

theorem getBinarySizes_libcHost_webEngine {sizes_config : SizesConfig}
    (hfar : sizes_config.far_files = ["web_engine.far".toList])
    (htotal : sizes_config.far_total_name = none) :
    getBinarySizes libcHost "out/Release".toList "/tmp/sizes".toList sizes_config =
      .ok (apportion libcWebEngineTables) := by
  rw [getBinarySizes, hfar, htotal]
  rfl

theorem lookup_apportion_libcWebEngineTables :
    (apportion libcWebEngineTables).lookup "web_engine".toList = some ⟨16384, 20000⟩ := by
  rw [lookup_apportion, show libcWebEngineTables.lookup "web_engine".toList =
    some (blobTable libcBlob) from rfl, Option.map_some', packageSize_blobTable,
    show blobCounts libcWebEngineTables libcBlob.name = 1 from rfl]
  norm_num [libcBlob]

theorem pos_apportion_libcWebEngineTables :
    ∀ p ∈ (apportion libcWebEngineTables).entries,
      0 < p.2.compressed ∧ (0 : ℚ) < p.2.uncompressed := by
  simp [apportion_entries, packageSize_eq, blobCounts_eq, libcWebEngineTables, libcBlobs,
    AList.keys, List.keys]

theorem getTestStatus_libcWebEngineTables :
    getTestStatus (apportion libcWebEngineTables) webEngineLimit true =
      .ok (true, (∅ : PyDict Status).insert "web_engine_compressed".toList .PASS) := by
  have hname : packageNameOf "web_engine_compressed".toList = "web_engine".toList := by decide
  have hpass := @limitStatus_of_lookup (apportion libcWebEngineTables)
    "web_engine_compressed".toList _ 1000000 (hname ▸ lookup_apportion_libcWebEngineTables)
  rw [if_pos (by norm_num)] at hpass
  rw [getTestStatus, if_pos rfl]
  simp only [show webEngineLimit.size_limits.entries =
    [⟨"web_engine_compressed".toList, 1000000⟩] from rfl, List.foldlM_cons, List.foldlM_nil, hpass]
  rfl

section Run

variable {args : Args} {host : MainHost}

theorem measure_of_getBinarySizes_ok {build_out_dir : PyStr} {package_sizes : PyDict PackageSizes}
    (h : getBinarySizes host.blobs build_out_dir host.extract_dir host.sizes_config =
      .ok package_sizes) :
    (measure host build_out_dir).2.1 = package_sizes ∧
      ((measure host build_out_dir).1 = true ↔
        ∀ p ∈ package_sizes.entries, 0 < p.2.compressed ∧ (0 : ℚ) < p.2.uncompressed) := by
  rw [← createSizesHistogram_ok_iff host.sizes_guid]
  unfold measure
  rw [h]
  cases hh : createSizesHistogram host.sizes_guid package_sizes <;> simp [hh]

theorem measure_histogram_of_getBinarySizes_ok {build_out_dir : PyStr}
    {package_sizes : PyDict PackageSizes}
    (h : getBinarySizes host.blobs build_out_dir host.extract_dir host.sizes_config =
      .ok package_sizes) :
    (measure host build_out_dir).2.2 =
      if ∀ p ∈ package_sizes.entries, 0 < p.2.compressed ∧ (0 : ℚ) < p.2.uncompressed then
        [.diagnostic host.sizes_guid] ++ package_sizes.entries.flatMap fun p =>
          [.item (p.1 ++ "_compressed".toList) p.2.compressed host.sizes_guid,
            .item (p.1 ++ "_uncompressed".toList) p.2.uncompressed host.sizes_guid]
      else [] := by
  unfold measure
  rw [h]
  dsimp only
  rw [createSizesHistogram_eq]
  by_cases hpos : ∀ p ∈ package_sizes.entries, 0 < p.2.compressed ∧ (0 : ℚ) < p.2.uncompressed
  · rw [if_pos hpos, if_pos hpos]
  · rw [if_neg hpos, if_neg hpos]

section Checks

variable (hout : truthy args.output_dir = false) (hdir : host.isdir args.build_out_dir = true)
  (hfar : ∀ f ∈ host.sizes_config.far_files,
    host.blobs.isfile (pathJoin args.build_out_dir f) = true)
include hout hdir hfar

theorem main_eq_of_checks :
    main args host =
      match getTestStatus (measure host args.build_out_dir).2.1 host.sizes_config
          (measure host args.build_out_dir).1 with
      | .error e => ⟨(measure host args.build_out_dir).1, ∅, (measure host args.build_out_dir).2.1,
          (measure host args.build_out_dir).2.2, .raised e⟩
      | .ok (all_tests_passed, test_status) => ⟨(measure host args.build_out_dir).1, test_status,
          (measure host args.build_out_dir).2.1, (measure host args.build_out_dir).2.2,
          .returned (if all_tests_passed then 0 else 1)⟩ := by
  have hfind : host.sizes_config.far_files.find?
      (fun f => host.blobs.isfile (pathJoin args.build_out_dir f) = false) = none :=
    List.find?_eq_none.mpr fun f hf => by simp [hfar f hf]
  simp only [main, hout, hdir, hfind, Bool.false_eq_true, Bool.true_eq_false, if_false]

theorem main_of_checks :
    (main args host).test_completed = (measure host args.build_out_dir).1 ∧
      ((measure host args.build_out_dir).1 = false →
        (main args host).test_status = crashStatus ∧ (main args host).exit = .returned 1) := by
  rw [main_eq_of_checks hout hdir hfar]
  refine ⟨by split <;> rfl, fun hcrash => ?_⟩
  rw [hcrash]
  exact ⟨rfl, rfl⟩

theorem main_measured_of_checks :
    (main args host).package_sizes = (measure host args.build_out_dir).2.1 ∧
      (main args host).sizes_histogram = (measure host args.build_out_dir).2.2 := by
  rw [main_eq_of_checks hout hdir hfar]
  split <;> exact ⟨rfl, rfl⟩

theorem main_of_getTestStatus {all_tests_passed : Bool} {test_status : PyDict Status}
    (hts : getTestStatus (measure host args.build_out_dir).2.1 host.sizes_config
      (measure host args.build_out_dir).1 = .ok (all_tests_passed, test_status)) :
    (main args host).test_completed = (measure host args.build_out_dir).1 ∧
      (main args host).test_status = test_status ∧
      (main args host).exit = .returned (if all_tests_passed then 0 else 1) := by
  rw [main_eq_of_checks hout hdir hfar, hts]
  exact ⟨rfl, rfl, rfl⟩

theorem main_of_no_size_limits {package_sizes : PyDict PackageSizes}
    (hsizes : getBinarySizes host.blobs args.build_out_dir host.extract_dir host.sizes_config =
      .ok package_sizes)
    (hpos : ∀ p ∈ package_sizes.entries, 0 < p.2.compressed ∧ (0 : ℚ) < p.2.uncompressed)
    (hlimits : host.sizes_config.size_limits.entries = []) :
    (main args host).test_completed = true ∧ (main args host).test_status = ∅ ∧
      (main args host).exit = .returned 0 := by
  obtain ⟨-, hdone⟩ := measure_of_getBinarySizes_ok hsizes
  have hts : getTestStatus (measure host args.build_out_dir).2.1 host.sizes_config
      (measure host args.build_out_dir).1 = .ok (true, ∅) := by
    rw [hdone.mpr hpos, getTestStatus, if_pos rfl, hlimits]
    rfl
  obtain ⟨hc, hstatus, hexit⟩ := main_of_getTestStatus hout hdir hfar hts
  exact ⟨hc.trans (hdone.mpr hpos), hstatus, hexit⟩

/-- Once `GetBinarySizes` has measured every package, `main` reports CRASH exactly when
some size is zero, as the compressed sizes are never negative and `math.log` rejects
zero. -/
theorem main_crashes_iff_size_zero {package_sizes : PyDict PackageSizes}
    (hsizes : getBinarySizes host.blobs args.build_out_dir host.extract_dir host.sizes_config =
      .ok package_sizes) :
    (∀ p ∈ package_sizes.entries, 0 ≤ p.2.compressed) ∧
      ((main args host).test_completed = false ↔
        ∃ p ∈ package_sizes.entries, p.2.compressed = 0 ∨ p.2.uncompressed = 0) ∧
      ((main args host).test_completed = false →
        (main args host).test_status = crashStatus ∧ (main args host).exit = .returned 1) := by
  have hnonneg := compressed_nonneg_of_getBinarySizes_ok hsizes
  obtain ⟨hmain, hcrash⟩ := main_of_checks hout hdir hfar
  obtain ⟨-, hmeasure⟩ := measure_of_getBinarySizes_ok hsizes
  refine ⟨hnonneg, ?_, fun h => hcrash (hmain ▸ h)⟩
  rw [hmain, ← Bool.not_eq_true, hmeasure]
  push_neg
  refine exists_congr fun p => and_congr_right fun hp => ?_
  have := hnonneg p hp
  constructor
  · intro h
    by_cases hc : 0 < p.2.compressed
    · exact .inr (by exact_mod_cast le_antisymm (h hc) (Nat.cast_nonneg _))
    · exact .inl (le_antisymm (not_lt.mp hc) this)
  · rintro (h | h) hc
    · exact absurd h hc.ne'
    · simp [h]

omit hout hdir hfar in
theorem main_crashes_iff_size_zero_icuOnlyHost :
    truthy (none : Option PyStr) = false ∧ icuOnlyHost.isdir "out/Release".toList = true ∧
    (∀ f ∈ icuOnlyHost.sizes_config.far_files,
      icuOnlyHost.blobs.isfile (pathJoin "out/Release".toList f) = true) ∧
    getBinarySizes icuOnlyHost.blobs "out/Release".toList icuOnlyHost.extract_dir
      icuOnlyHost.sizes_config = .ok icuOnlySizes ∧
    (∀ p ∈ icuOnlySizes.entries,
      0 ≤ p.2.compressed) ∧
    ((main ⟨"out/Release".toList, none⟩ icuOnlyHost).test_completed = false ↔
      ∃ p ∈ icuOnlySizes.entries,
        p.2.compressed = 0 ∨ p.2.uncompressed = 0) ∧
    ((main ⟨"out/Release".toList, none⟩ icuOnlyHost).test_completed = false →
      (main ⟨"out/Release".toList, none⟩ icuOnlyHost).test_status = crashStatus ∧
        (main ⟨"out/Release".toList, none⟩ icuOnlyHost).exit = .returned 1) :=
  ⟨rfl, rfl, by decide, rfl,
    @main_crashes_iff_size_zero ⟨"out/Release".toList, none⟩ icuOnlyHost rfl rfl (by decide)
      icuOnlySizes rfl⟩

omit hout hdir hfar in
/-- Every blob of `web_engine.far` is excluded, so `GetBinarySizes` measures it at zero
bytes without error, and `main` reports the run as CRASH. -/
theorem main_crashes_on_icu_only_package :
    getBinarySizes icuOnlyHost.blobs "out/Release".toList icuOnlyHost.extract_dir
      icuOnlyHost.sizes_config = .ok icuOnlySizes ∧
    (main ⟨"out/Release".toList, none⟩ icuOnlyHost).test_completed = false ∧
    (main ⟨"out/Release".toList, none⟩ icuOnlyHost).test_status = crashStatus :=
  ⟨rfl, rfl, rfl⟩

theorem main_sizes_histogram {package_sizes : PyDict PackageSizes}
    (hsizes : getBinarySizes host.blobs args.build_out_dir host.extract_dir host.sizes_config =
      .ok package_sizes) :
    (main args host).package_sizes = package_sizes ∧
      (main args host).sizes_histogram =
        if ∀ p ∈ package_sizes.entries, 0 < p.2.compressed ∧ (0 : ℚ) < p.2.uncompressed then
          .diagnostic host.sizes_guid :: package_sizes.entries.flatMap fun p =>
            [.item (p.1 ++ "_compressed".toList) p.2.compressed host.sizes_guid,
              .item (p.1 ++ "_uncompressed".toList) p.2.uncompressed host.sizes_guid]
        else [] := by
  obtain ⟨hps, hhist⟩ := main_measured_of_checks hout hdir hfar
  exact ⟨hps.trans (measure_of_getBinarySizes_ok hsizes).1,
    hhist.trans (measure_histogram_of_getBinarySizes_ok hsizes)⟩

omit hout hdir hfar in
theorem main_sizes_histogram_libcMainHost :
    (main ⟨"out/Release".toList, none⟩ libcMainHost).package_sizes = apportion libcWebEngineTables ∧
      (main ⟨"out/Release".toList, none⟩ libcMainHost).sizes_histogram =
        if ∀ p ∈ (apportion libcWebEngineTables).entries,
            0 < p.2.compressed ∧ (0 : ℚ) < p.2.uncompressed then
          .diagnostic libcMainHost.sizes_guid :: (apportion libcWebEngineTables).entries.flatMap
            fun p => [.item (p.1 ++ "_compressed".toList) p.2.compressed libcMainHost.sizes_guid,
              .item (p.1 ++ "_uncompressed".toList) p.2.uncompressed libcMainHost.sizes_guid]
        else [] :=
  @main_sizes_histogram ⟨"out/Release".toList, none⟩ libcMainHost rfl rfl (by decide)
    (apportion libcWebEngineTables) (getBinarySizes_libcHost_webEngine rfl rfl)

end Checks

/-- Every run of `main` that returns 0 completed its measurement and reports PASS for
every size limit. -/
theorem main_passed_of_returns_zero (h : (main args host).exit = .returned 0) :
    (main args host).test_completed = true ∧
      ∀ m s, (main args host).test_status.lookup m = some s → s = .PASS := by
  cases hout : truthy args.output_dir
  · cases hdir : host.isdir args.build_out_dir
    · simp [main, hout, hdir] at h
    · cases hfind : host.sizes_config.far_files.find?
          (fun f => host.blobs.isfile (pathJoin args.build_out_dir f) = false) with
      | some f =>
          simp only [main, hout, hdir, hfind, Bool.false_eq_true, Bool.true_eq_false, if_false]
            at h
          cases h
      | none =>
          have hfar : ∀ f ∈ host.sizes_config.far_files,
              host.blobs.isfile (pathJoin args.build_out_dir f) = true := fun f hf => by
            simpa using List.find?_eq_none.mp hfind f hf
          rw [main_eq_of_checks hout hdir hfar] at h ⊢
          cases hts : getTestStatus (measure host args.build_out_dir).2.1 host.sizes_config
              (measure host args.build_out_dir).1 with
          | error e => rw [hts] at h; cases h
          | ok r =>
              obtain ⟨all_tests_passed, test_status⟩ := r
              rw [hts] at h
              have hpassed : all_tests_passed = true := by simpa using h
              exact (getTestStatus_passed_iff hts).mp hpassed
  · simp [main, hout] at h

theorem main_exit_libcMainHost :
    (main ⟨"out/Release".toList, none⟩ libcMainHost).exit = .returned 0 := by
  have hsizes := @getBinarySizes_libcHost_webEngine webEngineLimit rfl rfl
  obtain ⟨hps, hdone⟩ := @measure_of_getBinarySizes_ok libcMainHost _ _ hsizes
  have hts : getTestStatus (measure libcMainHost "out/Release".toList).2.1 webEngineLimit
      (measure libcMainHost "out/Release".toList).1 =
        .ok (true, (∅ : PyDict Status).insert "web_engine_compressed".toList .PASS) := by
    rw [hps, hdone.mpr pos_apportion_libcWebEngineTables]
    exact getTestStatus_libcWebEngineTables
  exact (@main_of_getTestStatus ⟨"out/Release".toList, none⟩ libcMainHost rfl rfl (by decide)
    _ _ hts).2.2

theorem main_passed_of_returns_zero_libcMainHost :
    (main ⟨"out/Release".toList, none⟩ libcMainHost).exit = .returned 0 ∧
      (main ⟨"out/Release".toList, none⟩ libcMainHost).test_completed = true ∧
      ∀ m s, (main ⟨"out/Release".toList, none⟩ libcMainHost).test_status.lookup m = some s →
        s = .PASS :=
  ⟨main_exit_libcMainHost, main_passed_of_returns_zero main_exit_libcMainHost⟩

end Run

end ChromiumBuildUtil.BinarySizes.Budget
