import ChromiumBuildUtil.BinarySizes.Budget

/-!
The files `main` of `fuchsia/binary_sizes.py` writes when its `finally` block runs: the
test results, built by `CreateTestResults` or, for an empty status map, by
`WriteSimpleTestResults`, and the compressed sizes for the Gerrit size plugin.
-/

namespace ChromiumBuildUtil.BinarySizes.Results

open ChromiumBuildUtil.Python
open ChromiumBuildUtil.BinarySizes.Blobs
open ChromiumBuildUtil.BinarySizes.Apportion
open ChromiumBuildUtil.BinarySizes.Budget

/-- The results `CreateTestResults` builds, with `tests` holding each metric's `actual`
status. Its other keys hold constants: `interrupted` is false, `path_delimiter` is `.`
and `version` is 3; each test `expected` PASS. -/
structure TestResults where
  tests : PyDict Status
  num_failures_by_type : Status → Nat
  seconds_since_epoch : ℚ

/-- One turn of the loop of `CreateTestResults`. -/
def addTestResult (results : TestResults) (metric : PyStr) (actual_status : Status) :
    TestResults :=
  { results with
    num_failures_by_type := Function.update results.num_failures_by_type actual_status
      (results.num_failures_by_type actual_status + 1)
    tests := results.tests.insert metric actual_status }

/-- `CreateTestResults`; `num_failures_by_type` starts at 0 for FAIL, PASS and CRASH. -/
def createTestResults (test_status : PyDict Status) (timestamp : ℚ) : TestResults :=
  test_status.entries.foldl (fun results e => addTestResult results e.1 e.2) ⟨∅, fun _ => 0, timestamp⟩

/-- What `WriteTestResults` writes. -/
inductive ResultsFile
  | full (results : TestResults)
  /-- `WriteSimpleTestResults`: `{'valid': test_completed, 'failures': [],
  'version': 'simplified'}`. -/
  | simple (valid : Bool)

/-- `WriteTestResults`: the full results unless the status map is empty. -/
def writeTestResults (test_completed : Bool) (test_status : PyDict Status) (timestamp : ℚ) :
    ResultsFile :=
  if test_status.entries ≠ [] then .full (createTestResults test_status timestamp)
  else .simple test_completed

/-- The map `WriteGerritPluginSizeData` writes: each package's compressed size. -/
def gerritPluginSizeData (package_sizes : PyDict PackageSizes) : PyDict ℚ :=
  package_sizes.entries.foldl (fun sizes_data e => sizes_data.insert e.1 e.2.compressed) ∅

theorem foldl_addTestResult (l : List (Σ _ : PyStr, Status)) (results : TestResults) :
    l.foldl (fun results e => addTestResult results e.1 e.2) results =
      ⟨l.foldl (fun tests e => tests.insert e.1 e.2) results.tests,
        (l.map (·.2)).foldl (fun c k => Function.update c k (c k + 1)) results.num_failures_by_type,
        results.seconds_since_epoch⟩ := by
  induction l generalizing results with
  | nil => rfl
  | cons e l ih => rw [List.foldl_cons, ih]; rfl

theorem lookup_createTestResults (test_status : PyDict Status) (timestamp : ℚ) (metric : PyStr) :
    (createTestResults test_status timestamp).tests.lookup metric = test_status.lookup metric := by
  rw [createTestResults, foldl_addTestResult]
  simpa using lookup_foldl_insert (fun _ s => s) test_status metric

theorem num_failures_createTestResults (test_status : PyDict Status) (timestamp : ℚ) (s : Status) :
    (createTestResults test_status timestamp).num_failures_by_type s =
      (test_status.entries.map (·.2)).count s := by
  simp only [createTestResults, foldl_addTestResult, foldl_update_count, Nat.zero_add]

/-- Each metric's actual status is its status, each status is counted once per metric that
has it, and the counts add up to the number of metrics. -/
theorem createTestResults_spec (test_status : PyDict Status) (timestamp : ℚ) :
    (∀ metric, (createTestResults test_status timestamp).tests.lookup metric =
      test_status.lookup metric) ∧
    (∀ s, (createTestResults test_status timestamp).num_failures_by_type s =
      (test_status.entries.map (·.2)).count s) ∧
    (createTestResults test_status timestamp).num_failures_by_type .FAIL +
        (createTestResults test_status timestamp).num_failures_by_type .PASS +
        (createTestResults test_status timestamp).num_failures_by_type .CRASH =
      test_status.entries.length := by
  refine ⟨lookup_createTestResults _ _, num_failures_createTestResults _ _, ?_⟩
  simp only [num_failures_createTestResults]
  induction test_status.entries with
  | nil => rfl
  | cons e l ih =>
      simp only [List.map_cons, List.count_cons, List.length_cons]
      cases e.2 <;> simp <;> omega

section Checks

variable {args : Args} {host : MainHost} (hout : truthy args.output_dir = false)
  (hdir : host.isdir args.build_out_dir = true)
  (hfar : ∀ f ∈ host.sizes_config.far_files,
    host.blobs.isfile (pathJoin args.build_out_dir f) = true)
include hout hdir hfar

theorem writeTestResults_of_no_size_limits {package_sizes : PyDict PackageSizes}
    (hsizes : getBinarySizes host.blobs args.build_out_dir host.extract_dir host.sizes_config =
      .ok package_sizes)
    (hpos : ∀ p ∈ package_sizes.entries, 0 < p.2.compressed ∧ (0 : ℚ) < p.2.uncompressed)
    (hlimits : host.sizes_config.size_limits.entries = []) (timestamp : ℚ) :
    writeTestResults (main args host).test_completed (main args host).test_status timestamp =
        .simple true ∧ (main args host).exit = .returned 0 := by
  obtain ⟨hc, hstatus, hexit⟩ := main_of_no_size_limits hout hdir hfar hsizes hpos hlimits
  rw [hc, hstatus]
  exact ⟨rfl, hexit⟩

omit hout hdir hfar in
theorem writeTestResults_of_no_size_limits_libcNoLimitHost :
    writeTestResults (main ⟨"out/Release".toList, none⟩ libcNoLimitHost).test_completed
        (main ⟨"out/Release".toList, none⟩ libcNoLimitHost).test_status 0 = .simple true ∧
      (main ⟨"out/Release".toList, none⟩ libcNoLimitHost).exit = .returned 0 :=
  @writeTestResults_of_no_size_limits ⟨"out/Release".toList, none⟩ libcNoLimitHost rfl rfl
    (by decide) (apportion libcWebEngineTables) (getBinarySizes_libcHost_webEngine rfl rfl)
    pos_apportion_libcWebEngineTables rfl 0

end Checks

end ChromiumBuildUtil.BinarySizes.Results
