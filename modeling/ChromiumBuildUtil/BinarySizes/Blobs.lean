import ChromiumBuildUtil.Python

/-!
The blob measurements of `fuchsia/binary_sizes.py`. `GetCompressedSize` reads the
byte count `blobfs-compression` reports and rounds it to blobfs blocks, `FarBaseName`
names a package after its archive, and `GetBlobs` extracts a package and its
`meta.far` into scratch directories and measures every blob it does not exclude.
-/

namespace ChromiumBuildUtil.BinarySizes.Blobs

open ChromiumBuildUtil.Python

/-- A package blob with its measured sizes. `GetCompressedSize` returns a whole
number of bytes, as a Python 2 `float`. -/
structure Blob where
  name : PyStr
  hash : PyStr
  compressed : Nat
  uncompressed : Nat
  deriving DecidableEq, Repr

/-- The `bytes` group of `Wrote\s+(?P<bytes>\d+)\s+bytes` matched at the start of
`s`. Each greedy run is followed by a character its class excludes, so the
backtracking of `re` finds no other match. -/
def matchWroteBytes (s : PyStr) : Option PyStr :=
  if startswith s "Wrote".toList then
    let s := s.drop 5
    let spaces := s.takeWhile isSpace
    let s := s.dropWhile isSpace
    let digits := s.takeWhile Char.isDigit
    let s := s.dropWhile Char.isDigit
    let spaces' := s.takeWhile isSpace
    let s := s.dropWhile isSpace
    if spaces ≠ [] ∧ digits ≠ [] ∧ spaces' ≠ [] ∧ startswith s "bytes".toList then some digits
    else none
  else none

def searchWroteBytes : PyStr → Option PyStr
  | [] => matchWroteBytes []
  | s@(_ :: rest) => (matchWroteBytes s).orElse fun _ => searchWroteBytes rest

def decimalValue (digits : PyStr) : Nat :=
  digits.foldl (fun n c => 10 * n + (c.toNat - '0'.toNat)) 0

structure CompressorRun where
  returncode : Int
  output : PyStr

def blobfsBlockSize : Nat := 8192

/-- `GetCompressedSize`. The script runs under Python 2 and does not import
`division`, so `blob_bytes / BLOBFS_BLOCK_SIZE` divides two `int`s and floors, and
`math.ceil` of that integer leaves it unchanged. -/
def getCompressedSize (compressor_path file_path : PyStr) (run : CompressorRun) :
    Except PyExc Nat :=
  if run.returncode ≠ 0 then .error (.exception ("Error while running ".toList ++ compressor_path))
  else
    match searchWroteBytes run.output with
    | none => .error (.exception ("Could not get compressed bytes for ".toList ++ file_path))
    | some digits =>
        let blob_bytes := decimalValue digits
        .ok (blob_bytes / blobfsBlockSize * blobfsBlockSize)

/-- `FarBaseName`: the last path component without a final `.far`. The `$` of
`re.sub(r'\.far$', '', name)` also matches before a final newline. -/
def farBaseName (name : PyStr) : PyStr :=
  let name := basename name
  if endswith name ".far".toList then name.take (name.length - 4)
  else if endswith name ".far\n".toList then name.take (name.length - 5) ++ ['\n']
  else name

/-- One turn of the loop of `GetBlobNameHashes`: the line, stripped, must split on
`=` into exactly a path and a hash. -/
def addBlobNameHash (blob_name_hashes : PyDict PyStr) (line : PyStr) :
    Except PyExc (PyDict PyStr) :=
  match split (strip line) '=' with
  | [pkgfs_path, blob_hash] => .ok (blob_name_hashes.insert pkgfs_path blob_hash)
  | [_] => .error (.valueError "need more than 1 value to unpack".toList)
  | _ => .error (.valueError "too many values to unpack".toList)

def blobNameHashesOf (contents : PyStr) : Except PyExc (PyDict PyStr) :=
  (readLines contents).foldlM addBlobNameHash ∅

/-- `SO_FILENAME_REGEXP.search(name)` for `\.so(\.\d+)?$`: the name ends in `.so`,
or in `.so.` and digits, possibly before a final newline. -/
def isSharedObjectName (name : PyStr) : Bool :=
  let endsSo := fun n : PyStr =>
    endswith n ".so".toList ||
      (let digits := n.rtakeWhile Char.isDigit
       !digits.isEmpty && endswith (n.rdrop digits.length) ".so.".toList)
  endsSo name || (endswith name "\n".toList && endsSo name.dropLast)

/-- `GetSdkModulesForExclusion` over the directories `os.walk` visits under the SDK's
`arch` directory, each with the names of its files. -/
def getSdkModulesForExclusion (walk : List (PyStr × List PyStr)) : Finset PyStr :=
  walk.foldl
    (fun lib_names entry =>
      if basename entry.1 ∈ ["dist".toList, "lib".toList] then
        entry.2.foldl
          (fun lib_names name => if isSharedObjectName name then insert name lib_names else lib_names)
          lib_names
      else lib_names)
    ∅

/-- What `GetBlobs` reads from the machine: the two host tools, `os.path.isfile`,
`far extract`, `open(path).read()`, the walk of the SDK's `arch` directory, a run of
`blobfs-compression` on a blob and `os.path.getsize`; a failed call is known by its
error text. -/
structure Host where
  far_tool : PyStr
  compressor_path : PyStr
  isfile : PyStr → Bool
  farExtract : PyStr → PyStr → Except PyStr Unit
  read : PyStr → Except PyStr PyStr
  sdkWalk : List (PyStr × List PyStr)
  compress : PyStr → CompressorRun
  getsize : PyStr → Except PyStr Nat

def extractFarFile (host : Host) (file_path extract_dir : PyStr) : Except PyExc Unit :=
  if host.isfile host.far_tool = false then
    .error (.exception ("Could not find FAR host tool \"".toList ++ host.far_tool ++ "\".".toList))
  else if host.isfile file_path = false then
    .error (.exception ("Could not find FAR file \"".toList ++ file_path ++ "\".".toList))
  else (host.farExtract file_path extract_dir).mapError .external

def getBlobNameHashes (host : Host) (meta_dir : PyStr) : Except PyExc (PyDict PyStr) := do
  let contents ← (host.read (pathJoin (pathJoin meta_dir "meta".toList) "contents".toList)).mapError
    .external
  blobNameHashesOf contents

def farExtractDir (extract_dir base_name : PyStr) : PyStr := pathJoin extract_dir base_name

def metaFarExtractDir (extract_dir base_name : PyStr) : PyStr :=
  pathJoin extract_dir (base_name ++ "_meta".toList)

def measureBlob (host : Host) (far_extract_dir : PyStr) (excluded_files : Finset PyStr)
    (blobs : PyDict Blob) (blob_name blob_hash : PyStr) : Except PyExc (PyDict Blob) :=
  if basename blob_name ∉ excluded_files then do
    let extracted_blob_path := pathJoin far_extract_dir blob_hash
    let compressed ← getCompressedSize host.compressor_path extracted_blob_path
      (host.compress extracted_blob_path)
    let uncompressed ← (host.getsize extracted_blob_path).mapError .external
    pure (blobs.insert blob_name ⟨blob_name, blob_hash, compressed, uncompressed⟩)
  else pure blobs

def getBlobs (host : Host) (far_file build_out_dir extract_dir : PyStr) :
    Except PyExc (PyDict Blob) := do
  let base_name := farBaseName far_file
  let far_file_path := pathJoin build_out_dir far_file
  let far_extract_dir := farExtractDir extract_dir base_name
  extractFarFile host far_file_path far_extract_dir
  let meta_far_file_path := pathJoin far_extract_dir "meta.far".toList
  let meta_far_extract_dir := metaFarExtractDir extract_dir base_name
  extractFarFile host meta_far_file_path meta_far_extract_dir
  let blob_name_hashes ← getBlobNameHashes host meta_far_extract_dir
  let excluded_files := getSdkModulesForExclusion host.sdkWalk ∪ {"icudtl.dat".toList}
  blob_name_hashes.entries.foldlM
    (fun blobs e => measureBlob host far_extract_dir excluded_files blobs e.1 e.2) ∅

theorem not_mem_farBaseName (name : PyStr) : '/' ∉ farBaseName name := by
  have h := not_mem_basename name
  unfold farBaseName
  dsimp only
  split_ifs
  · exact fun hm => h (List.mem_of_mem_take hm)
  · simpa using fun hm => h (List.mem_of_mem_take hm)
  · exact h

/-- The directories `GetBlobs` extracts the packages of `far_files` into, in the
order of the extractions. -/
def extractDirs (extract_dir : PyStr) (far_files : List PyStr) : List PyStr :=
  far_files.flatMap fun f =>
    [farExtractDir extract_dir (farBaseName f), metaFarExtractDir extract_dir (farBaseName f)]

theorem flatMap_pair_perm (B : List PyStr) (g : PyStr → PyStr) :
    List.Perm (B.flatMap fun b => [b, g b]) (B ++ B.map g) := by
  induction B with
  | nil => simp
  | cons b B ih =>
      simp only [List.flatMap_cons, List.map_cons, List.cons_append, List.singleton_append]
      exact (ih.cons _).cons b |>.trans (List.perm_middle.symm.cons b)

theorem not_root_farBaseName (f : PyStr) :
    ¬ "/".toList <+: farBaseName f ∧ ¬ "/".toList <+: farBaseName f ++ "_meta".toList := by
  have h := not_mem_farBaseName f
  refine ⟨fun hp => h (hp.subset (by simp)), fun hp => ?_⟩
  have : '/' ∈ farBaseName f ++ "_meta".toList := hp.subset (by simp)
  simp only [List.mem_append] at this
  exact this.elim h (by decide)

theorem extractDirs_eq (extract_dir : PyStr) (far_files : List PyStr) :
    extractDirs extract_dir far_files =
      ((far_files.map farBaseName).flatMap fun b => [b, b ++ "_meta".toList]).map
        (pathJoin extract_dir) := by
  simp [extractDirs, List.map_flatMap, List.flatMap_map, farExtractDir, metaFarExtractDir]

theorem nodup_map_pathJoin_iff (extract_dir : PyStr) {L : List PyStr}
    (hL : ∀ x ∈ L, ¬ "/".toList <+: x) : (L.map (pathJoin extract_dir)).Nodup ↔ L.Nodup :=
  ⟨List.Nodup.of_map _, List.Nodup.map_on fun x hx y hy => pathJoin_inj (hL x hx) (hL y hy)⟩

theorem extractDirs_nodup_iff (extract_dir : PyStr) (far_files : List PyStr)
    (hbase : (far_files.map farBaseName).Nodup) :
    ((far_files.map fun f => farExtractDir extract_dir (farBaseName f)).Nodup ∧
      (far_files.map fun f => metaFarExtractDir extract_dir (farBaseName f)).Nodup) ∧
    ((extractDirs extract_dir far_files).Nodup ↔
      ∀ b ∈ far_files.map farBaseName, ∀ b' ∈ far_files.map farBaseName,
        b ≠ b' ++ "_meta".toList) := by
  set B := far_files.map farBaseName with hB
  have hroot : ∀ b ∈ B, ¬ "/".toList <+: b ∧ ¬ "/".toList <+: b ++ "_meta".toList := by
    simpa [hB] using fun f _ => not_root_farBaseName f
  have hmeta : (B.map fun b => b ++ "_meta".toList).Nodup :=
    hbase.map fun _ _ h => List.append_cancel_right h
  refine ⟨⟨?_, ?_⟩, ?_⟩
  · rw [show (far_files.map fun f => farExtractDir extract_dir (farBaseName f)) =
      B.map (pathJoin extract_dir) by simp [hB, farExtractDir],
      nodup_map_pathJoin_iff _ fun b hb => (hroot b hb).1]
    exact hbase
  · rw [show (far_files.map fun f => metaFarExtractDir extract_dir (farBaseName f)) =
      (B.map fun b => b ++ "_meta".toList).map (pathJoin extract_dir) by
        simp [hB, metaFarExtractDir],
      nodup_map_pathJoin_iff _ (List.forall_mem_map.mpr fun b hb => (hroot b hb).2)]
    exact hmeta
  · rw [extractDirs_eq, ← hB, nodup_map_pathJoin_iff _ (List.forall_mem_flatMap.mpr fun b hb =>
        by simpa using hroot b hb),
      (flatMap_pair_perm B _).nodup_iff, List.nodup_append]
    simp only [hbase, hmeta, true_and, List.disjoint_left, List.mem_map, not_exists, not_and]
    exact ⟨fun h b hb b' hb' heq => h hb b' hb' heq.symm,
      fun h b hb b' hb' heq => h b hb b' hb' heq.symm⟩

theorem extractDirs_nodup_iff_two_packages :
    (((["web_engine.far".toList, "cast_runner.far".toList].map fun f =>
        farExtractDir "/tmp/sizes".toList (farBaseName f)).Nodup ∧
      (["web_engine.far".toList, "cast_runner.far".toList].map fun f =>
        metaFarExtractDir "/tmp/sizes".toList (farBaseName f)).Nodup) ∧
    ((extractDirs "/tmp/sizes".toList ["web_engine.far".toList, "cast_runner.far".toList]).Nodup ↔
      ∀ b ∈ ["web_engine.far".toList, "cast_runner.far".toList].map farBaseName,
        ∀ b' ∈ ["web_engine.far".toList, "cast_runner.far".toList].map farBaseName,
          b ≠ b' ++ "_meta".toList)) :=
  extractDirs_nodup_iff _ _ (by decide)

/-- `foo.far` and `foo_meta.far` have distinct base names, and both are extracted
into `foo_meta`. -/
theorem extractDirs_collide_foo_meta :
    (["foo.far".toList, "foo_meta.far".toList].map farBaseName).Nodup ∧
      ¬ (extractDirs "/tmp/sizes".toList ["foo.far".toList, "foo_meta.far".toList]).Nodup := by
  decide

/-- A `meta/contents` file that lists the entries of `blob_name_hashes`, each as a line
`path=hash`. -/
def contentsOf (blob_name_hashes : PyDict PyStr) : PyStr :=
  (blob_name_hashes.entries.map fun e => (e.1 ++ '=' :: e.2) ++ ['\n']).flatten

/-- A blob hash: 64 lowercase hexadecimal digits. -/
def IsBlobHash (h : PyStr) : Prop :=
  h.length = 64 ∧ ∀ c ∈ h, c.isDigit = true ∨ ('a' ≤ c ∧ c ≤ 'f')

instance (h : PyStr) : Decidable (IsBlobHash h) := inferInstanceAs (Decidable (_ ∧ _))

theorem hexDigit_plain {c : Char} (hc : c.isDigit = true ∨ ('a' ≤ c ∧ c ≤ 'f')) :
    isSpace c = false ∧ c ≠ '=' ∧ c ≠ '\n' := by
  refine ⟨?_, ?_, ?_⟩
  · cases hs : isSpace c
    · rfl
    · simp only [isSpace, Bool.or_eq_true, beq_iff_eq] at hs
      rcases hs with (((((rfl | rfl) | rfl) | rfl) | rfl) | rfl) <;> revert hc <;> decide
  · rintro rfl
    revert hc
    decide
  · rintro rfl
    revert hc
    decide

theorem readLines_flatten (L : List PyStr) (hL : ∀ l ∈ L, '\n' ∉ l) :
    readLines (L.map (· ++ ['\n'])).flatten = L := by
  have hsplit : split (L.map (· ++ ['\n'])).flatten '\n' = L ++ [[]] := by
    induction L with
    | nil => rfl
    | cons a L ih =>
        rw [List.map_cons, List.flatten_cons, List.append_assoc, List.singleton_append, split,
          List.splitOn, List.splitOnP_first (· == '\n') a
            (fun x hx h => hL a (List.mem_cons_self _ _) (beq_iff_eq.mp h ▸ hx)) '\n'
            (beq_self_eq_true '\n'),
          ← List.splitOn, ← split, ih fun l hl => hL l (List.mem_cons_of_mem _ hl),
          List.cons_append]
  rw [readLines, hsplit, List.getLast?_append_of_ne_nil _ (List.cons_ne_nil _ _)]
  simp

theorem split_contents_line {path blob_hash : PyStr} (hpath : '\n' ∉ path ∧ '=' ∉ path ∧
      ∀ c ∈ path.head?, isSpace c = false) (hhash : IsBlobHash blob_hash) :
    split (strip (path ++ '=' :: blob_hash)) '=' = [path, blob_hash] := by
  obtain ⟨-, heq, hhead⟩ := hpath
  have hplain := fun c hc => hexDigit_plain (hhash.2 c hc)
  obtain ⟨h', c, rfl⟩ : ∃ h' c, blob_hash = h' ++ [c] := by
    obtain ⟨h', c, hc⟩ := (List.eq_nil_or_concat blob_hash).resolve_left fun h => by
      simp [h, IsBlobHash] at hhash
    exact ⟨h', c, by simpa using hc⟩
  have hdrop : (path ++ '=' :: (h' ++ [c])).dropWhile isSpace = path ++ '=' :: (h' ++ [c]) := by
    cases path with
    | nil => exact List.dropWhile_cons_of_neg (by decide)
    | cons a path => exact List.dropWhile_cons_of_neg (by simpa using hhead a rfl)
  have hassoc : path ++ '=' :: (h' ++ [c]) = (path ++ '=' :: h') ++ [c] := by simp
  rw [strip, hdrop, hassoc,
    List.rdropWhile_concat_neg isSpace _ c (by simp [(hplain c (by simp)).1]),
    ← hassoc, split, List.splitOn,
    List.splitOnP_first (· == '=') path (fun x hx h => heq (beq_iff_eq.mp h ▸ hx)) '='
      (beq_self_eq_true '='),
    List.splitOnP_eq_single (· == '=') _ fun x hx h => (hplain x hx).2.1 (beq_iff_eq.mp h)]

theorem foldlM_addBlobNameHash (l : List (Σ _ : PyStr, PyStr)) (acc : PyDict PyStr)
    (hl : ∀ e ∈ l, ('\n' ∉ e.1 ∧ '=' ∉ e.1 ∧ ∀ c ∈ e.1.head?, isSpace c = false) ∧ IsBlobHash e.2) :
    (l.map fun e => e.1 ++ '=' :: e.2).foldlM addBlobNameHash acc =
      .ok (l.foldl (fun acc e => acc.insert e.1 e.2) acc) := by
  induction l generalizing acc with
  | nil => rfl
  | cons e l ih =>
      obtain ⟨hpath, hhash⟩ := hl e (List.mem_cons_self _ _)
      rw [List.map_cons, List.foldlM_cons, addBlobNameHash, split_contents_line hpath hhash,
        ok_bind, ih _ fun x hx => hl x (List.mem_cons_of_mem _ hx), List.foldl_cons]

theorem getBlobNameHashes_contentsOf (host : Host) (meta_dir : PyStr)
    (blob_name_hashes : PyDict PyStr)
    (hread : host.read (pathJoin (pathJoin meta_dir "meta".toList) "contents".toList) =
      .ok (contentsOf blob_name_hashes))
    (hpath : ∀ e ∈ blob_name_hashes.entries,
      '\n' ∉ e.1 ∧ '=' ∉ e.1 ∧ ∀ c ∈ e.1.head?, isSpace c = false)
    (hhash : ∀ e ∈ blob_name_hashes.entries, IsBlobHash e.2) :
    ∃ r, getBlobNameHashes host meta_dir = .ok r ∧ ∀ k, r.lookup k = blob_name_hashes.lookup k := by
  have hlines : readLines (contentsOf blob_name_hashes) =
      blob_name_hashes.entries.map fun e => e.1 ++ '=' :: e.2 := by
    rw [contentsOf, show (blob_name_hashes.entries.map fun e => (e.1 ++ '=' :: e.2) ++ ['\n']) =
      (blob_name_hashes.entries.map fun e => e.1 ++ '=' :: e.2).map (· ++ ['\n']) by simp,
      readLines_flatten]
    simp only [List.mem_map]
    rintro _ ⟨e, he, rfl⟩ hn
    rcases List.mem_append.mp hn with hn | hn
    · exact (hpath e he).1 hn
    · rcases List.mem_cons.mp hn with hn | hn
      · exact absurd hn (by decide)
      · exact (hexDigit_plain ((hhash e he).2 _ hn)).2.2 rfl
  refine ⟨blob_name_hashes.entries.foldl (fun acc e => acc.insert e.1 e.2) ∅, ?_, fun k => ?_⟩
  · rw [getBlobNameHashes, hread, Except.mapError, ok_bind, blobNameHashesOf, hlines,
      foldlM_addBlobNameHash _ _ fun e he => ⟨hpath e he, hhash e he⟩]
  · simpa using lookup_foldl_insert (fun _ v => v) blob_name_hashes k

def exampleHash : PyStr := "0123456789abcdef0123456789abcdef0123456789abcdef0123456789abcdef".toList

/-- A machine whose only file is the `meta/contents` file `contents`. -/
def contentsHost (contents : PyStr) : Host where
  far_tool := "far".toList
  compressor_path := "blobfs-compression".toList
  isfile := fun _ => true
  farExtract := fun _ _ => .ok ()
  read := fun _ => .ok contents
  sdkWalk := []
  compress := fun _ => ⟨0, []⟩
  getsize := fun _ => .ok 0

/-- The contents of a package of three blobs. -/
def webEngineBlobNameHashes : PyDict PyStr :=
  ⟨[⟨"lib/libc.so".toList, exampleHash⟩, ⟨"lib/libfdio.so".toList, exampleHash.reverse⟩,
      ⟨"data/icudtl.dat".toList, exampleHash.rotate 32⟩],
    by unfold List.NodupKeys; decide⟩

theorem getBlobNameHashes_contentsOf_webEngine :
    (contentsHost (contentsOf webEngineBlobNameHashes)).read
        (pathJoin (pathJoin "/tmp/sizes/web_engine_meta".toList "meta".toList) "contents".toList) =
      .ok (contentsOf webEngineBlobNameHashes) ∧
    (∀ e ∈ webEngineBlobNameHashes.entries,
      '\n' ∉ e.1 ∧ '=' ∉ e.1 ∧ ∀ c ∈ e.1.head?, isSpace c = false) ∧
    (∀ e ∈ webEngineBlobNameHashes.entries, IsBlobHash e.2) ∧
    ∃ r, getBlobNameHashes (contentsHost (contentsOf webEngineBlobNameHashes))
        "/tmp/sizes/web_engine_meta".toList = .ok r ∧
      ∀ k, r.lookup k = webEngineBlobNameHashes.lookup k :=
  ⟨rfl, by decide, by decide, getBlobNameHashes_contentsOf _ _ _ rfl (by decide) (by decide)⟩

theorem getBlobNameHashes_path_with_equals :
    IsBlobHash exampleHash ∧
      getBlobNameHashes (contentsHost (contentsOf (AList.singleton "lib/a=b.so".toList exampleHash)))
        "/tmp/sizes/web_engine_meta".toList = .error (.valueError "too many values to unpack".toList) :=
  ⟨by decide, rfl⟩

theorem getCompressedSize_eq_ok {compressor_path file_path : PyStr} {run : CompressorRun}
    {size : Nat} :
    getCompressedSize compressor_path file_path run = .ok size ↔ run.returncode = 0 ∧
      ∃ digits, searchWroteBytes run.output = some digits ∧
        size = decimalValue digits / blobfsBlockSize * blobfsBlockSize := by
  unfold getCompressedSize
  split_ifs with hrc
  · simp [hrc]
  · rw [not_not] at hrc
    cases hs : searchWroteBytes run.output <;> simp [hrc, eq_comm]

theorem searchWroteBytes_eq_reSearch : searchWroteBytes = reSearch matchWroteBytes := by
  funext s
  induction s with
  | nil => rfl
  | cons c rest ih => rw [reSearch_cons, ← ih]; rfl

theorem searchWroteBytes_of_match {s digits : PyStr} (h : matchWroteBytes s = some digits) :
    searchWroteBytes s = some digits := by
  cases s <;> simp [searchWroteBytes, h, Option.orElse]

theorem matchWroteBytes_wrote {digits rest : PyStr} (hne : digits ≠ [])
    (hd : ∀ c ∈ digits, c.isDigit = true) :
    matchWroteBytes ("Wrote ".toList ++ digits ++ " bytes".toList ++ rest) = some digits := by
  obtain ⟨d, ds, rfl⟩ := List.exists_cons_of_ne_nil hne
  have hsp : isSpace d = false := (hexDigit_plain (Or.inl (hd d (List.mem_cons_self _ _)))).1
  have hpre : "Wrote ".toList ++ d :: ds ++ " bytes".toList ++ rest =
      "Wrote".toList ++ ' ' :: (d :: ds ++ (" bytes".toList ++ rest)) := by simp
  have htake : (d :: ds ++ (" bytes".toList ++ rest)).takeWhile Char.isDigit = d :: ds := by
    rw [List.takeWhile_append_of_pos hd,
      show (" bytes".toList ++ rest).takeWhile Char.isDigit = [] from rfl, List.append_nil]
  have hdrop : (d :: ds ++ (" bytes".toList ++ rest)).dropWhile Char.isDigit =
      " bytes".toList ++ rest := by
    rw [List.dropWhile_append_of_pos hd]; rfl
  rw [hpre, matchWroteBytes, if_pos (startswith_append _ _),
    List.drop_left' (show "Wrote".toList.length = 5 from rfl)]
  dsimp only
  rw [List.takeWhile_cons_of_pos rfl, List.dropWhile_cons_of_pos rfl, List.cons_append,
    List.takeWhile_cons_of_neg (by simp [hsp]), List.dropWhile_cons_of_neg (by simp [hsp]),
    ← List.cons_append, htake, hdrop]
  exact if_pos ⟨List.cons_ne_nil _ _, List.cons_ne_nil _ _, List.cons_ne_nil _ _,
    startswith_append _ _⟩

theorem getCompressedSize_wrote (compressor_path file_path : PyStr) {digits rest : PyStr}
    (hne : digits ≠ []) (hd : ∀ c ∈ digits, c.isDigit = true) :
    ∃ size, getCompressedSize compressor_path file_path
        ⟨0, "Wrote ".toList ++ digits ++ " bytes".toList ++ rest⟩ = .ok size ∧
      blobfsBlockSize ∣ size ∧ size ≤ decimalValue digits ∧
      decimalValue digits < size + blobfsBlockSize := by
  exact ⟨_, getCompressedSize_eq_ok.mpr
      ⟨rfl, _, searchWroteBytes_of_match (matchWroteBytes_wrote hne hd), rfl⟩,
    Nat.dvd_mul_left _ _, Nat.div_mul_le_self _ _, Nat.lt_div_mul_add (by decide)⟩

theorem getCompressedSize_wrote_360830 :
    ∃ size, getCompressedSize "blobfs-compression".toList "/tmp/sizes/web_engine/blob".toList
        ⟨0, "Wrote ".toList ++ "360830".toList ++ " bytes".toList ++ " (40% compression)".toList⟩ =
          .ok size ∧
      blobfsBlockSize ∣ size ∧ size ≤ decimalValue "360830".toList ∧
      decimalValue "360830".toList < size + blobfsBlockSize :=
  getCompressedSize_wrote _ _ (by decide) (by decide)

theorem getCompressedSize_one_byte :
    getCompressedSize "blobfs-compression".toList "/tmp/sizes/web_engine/blob".toList
      ⟨0, "Wrote 1 bytes (0% compression)".toList⟩ = .ok 0 := rfl

/-- `s` starts with a text that `Wrote\s+(?P<bytes>\d+)\s+bytes` matches, with `digits`
as its `bytes` group. -/
def StartsWithWroteBytes (s digits : PyStr) : Prop :=
  ∃ spaces spaces', spaces ≠ [] ∧ (∀ c ∈ spaces, isSpace c) ∧ digits ≠ [] ∧
    (∀ c ∈ digits, c.isDigit) ∧ spaces' ≠ [] ∧ (∀ c ∈ spaces', isSpace c) ∧
    "Wrote".toList ++ spaces ++ digits ++ spaces' ++ "bytes".toList <+: s

theorem isDigit_eq_false_of_isSpace {c : Char} (h : isSpace c = true) : c.isDigit = false := by
  simp only [isSpace, Bool.or_eq_true, beq_iff_eq] at h
  rcases h with (((((rfl | rfl) | rfl) | rfl) | rfl) | rfl) <;> rfl

theorem matchWroteBytes_eq_some {s digits : PyStr} :
    matchWroteBytes s = some digits ↔ StartsWithWroteBytes s digits := by
  constructor
  · intro h
    unfold matchWroteBytes at h
    by_cases hp : "Wrote".toList <+: s
    · obtain ⟨u, rfl⟩ := hp
      rw [if_pos (startswith_append _ _),
        List.drop_left' (show "Wrote".toList.length = 5 from rfl)] at h
      dsimp only at h
      generalize hu1 : u.dropWhile isSpace = u1 at h
      generalize hu2 : u1.dropWhile Char.isDigit = u2 at h
      generalize hu3 : u2.dropWhile isSpace = u3 at h
      by_cases hc : u.takeWhile isSpace ≠ [] ∧ u1.takeWhile Char.isDigit ≠ [] ∧
          u2.takeWhile isSpace ≠ [] ∧ startswith u3 "bytes".toList
      · rw [if_pos hc, Option.some.injEq] at h
        subst h
        refine ⟨u.takeWhile isSpace, u2.takeWhile isSpace, hc.1,
          fun _ hx => List.mem_takeWhile_imp hx, hc.2.1, fun _ hx => List.mem_takeWhile_imp hx,
          hc.2.2.1, fun _ hx => List.mem_takeWhile_imp hx, ?_⟩
        have hsplit : u = u.takeWhile isSpace ++
            (u1.takeWhile Char.isDigit ++ (u2.takeWhile isSpace ++ u3)) := by
          rw [← hu3, List.takeWhile_append_dropWhile, ← hu2, List.takeWhile_append_dropWhile,
            ← hu1, List.takeWhile_append_dropWhile]
        conv => rhs; rw [hsplit]
        simp only [List.append_assoc, List.prefix_append_right_inj]
        simpa using hc.2.2.2
      · rw [if_neg hc] at h
        cases h
    · rw [if_neg (by simpa using hp)] at h
      cases h
  · rintro ⟨sp, sp', hsp, hsp_all, hne, hd, hsp', hsp'_all, rest, rfl⟩
    obtain ⟨d0, ds, rfl⟩ := List.exists_cons_of_ne_nil hne
    obtain ⟨t0, ts, rfl⟩ := List.exists_cons_of_ne_nil hsp'
    have h1 := @takeWhile_dropWhile_run _ _ (ds ++ (t0 :: ts ++ ("bytes".toList ++ rest))) _
      hsp_all (hexDigit_plain (Or.inl (hd d0 (List.mem_cons_self _ _)))).1
    have h2 : (d0 :: ds ++ (t0 :: ts ++ ("bytes".toList ++ rest))).takeWhile Char.isDigit =
          d0 :: ds ∧
        (d0 :: ds ++ (t0 :: ts ++ ("bytes".toList ++ rest))).dropWhile Char.isDigit =
          t0 :: ts ++ ("bytes".toList ++ rest) :=
      takeWhile_dropWhile_run hd (isDigit_eq_false_of_isSpace (hsp'_all t0 (List.mem_cons_self _ _)))
    have h3 : (t0 :: ts ++ ("bytes".toList ++ rest)).takeWhile isSpace = t0 :: ts ∧
        (t0 :: ts ++ ("bytes".toList ++ rest)).dropWhile isSpace = "bytes".toList ++ rest :=
      @takeWhile_dropWhile_run _ _ ("ytes".toList ++ rest) 'b' hsp'_all rfl
    have hs : "Wrote".toList ++ sp ++ d0 :: ds ++ t0 :: ts ++ "bytes".toList ++ rest =
        "Wrote".toList ++ (sp ++ d0 :: (ds ++ (t0 :: ts ++ ("bytes".toList ++ rest)))) := by
      simp only [List.append_assoc, List.cons_append]
    rw [hs, matchWroteBytes, if_pos (startswith_append _ _),
      List.drop_left' (show "Wrote".toList.length = 5 from rfl)]
    dsimp only
    rw [h1.1, h1.2, ← List.cons_append, h2.1, h2.2, h3.1, h3.2]
    exact if_pos ⟨hsp, List.cons_ne_nil _ _, List.cons_ne_nil _ _, startswith_append _ _⟩

/-- `GetCompressedSize` returns a size exactly when the compressor exits with 0 and prints
`Wrote <digits> bytes` somewhere: the first such count, rounded down to whole blocks.
Otherwise it raises the error that names the compressor, or the one that names the file
when no count is printed. -/
theorem getCompressedSize_spec (compressor_path file_path : PyStr) (run : CompressorRun) :
    (∀ size, getCompressedSize compressor_path file_path run = .ok size ↔
      run.returncode = 0 ∧ ∃ k digits, StartsWithWroteBytes (run.output.drop k) digits ∧
        (∀ j < k, ∀ d, ¬ StartsWithWroteBytes (run.output.drop j) d) ∧
        size = decimalValue digits / blobfsBlockSize * blobfsBlockSize) ∧
    (∀ e, getCompressedSize compressor_path file_path run = .error e ↔
      (run.returncode ≠ 0 ∧ e = .exception ("Error while running ".toList ++ compressor_path)) ∨
      (run.returncode = 0 ∧ (∀ k digits, ¬ StartsWithWroteBytes (run.output.drop k) digits) ∧
        e = .exception ("Could not get compressed bytes for ".toList ++ file_path))) := by
  have hpat : ∀ s digits, matchWroteBytes s = some digits ↔ StartsWithWroteBytes s digits :=
    fun _ _ => matchWroteBytes_eq_some
  have hnone : searchWroteBytes run.output = none ↔
      ∀ k digits, ¬ StartsWithWroteBytes (run.output.drop k) digits := by
    rw [searchWroteBytes_eq_reSearch]
    exact reSearch_eq_none_iff hpat
  refine ⟨fun size => ?_, fun e => ?_⟩
  · simp only [getCompressedSize_eq_ok, searchWroteBytes_eq_reSearch, reSearch_eq_some_iff hpat]
    exact and_congr_right fun _ =>
      ⟨fun ⟨p, ⟨k, hk, hlt⟩, hs⟩ => ⟨k, p, hk, hlt, hs⟩,
        fun ⟨k, p, hk, hlt, hs⟩ => ⟨p, ⟨k, hk, hlt⟩, hs⟩⟩
  · unfold getCompressedSize
    by_cases hrc : run.returncode = 0
    · simp only [hrc, ne_eq, not_true_eq_false, if_false, false_and, false_or, true_and]
      cases h : searchWroteBytes run.output
      · simp only [Except.error.injEq, hnone.mp h, not_false_eq_true, implies_true, true_and]
        exact eq_comm
      · simp only [reduceCtorEq, false_iff, not_and]
        exact fun hall => absurd (hnone.mpr hall) (by simp [h])
    · simp only [hrc, ne_eq, not_false_eq_true, if_true, Except.error.injEq, true_and, false_and,
        or_false]
      exact eq_comm

/-- A name that `\.so(\.\d+)?` matches at its very end: it ends in `.so`, or in `.so.`
and one or more decimal digits. -/
def EndsInSharedObjectSuffix (n : PyStr) : Prop :=
  ".so".toList <:+ n ∨
    ∃ digits, digits ≠ [] ∧ (∀ c ∈ digits, c.isDigit = true) ∧ ".so.".toList ++ digits <:+ n

theorem rtakeWhile_isDigit_append {pre digits : PyStr} {c : Char} (hc : c.isDigit = false)
    (hd : ∀ x ∈ digits, x.isDigit = true) :
    (pre ++ c :: digits).rtakeWhile Char.isDigit = digits := by
  rw [List.rtakeWhile, List.reverse_append, List.reverse_cons, List.append_assoc,
    List.takeWhile_append_of_pos (fun x hx => hd x (List.mem_reverse.mp hx)),
    List.singleton_append, List.takeWhile_cons_of_neg (by simp [hc]), List.append_nil,
    List.reverse_reverse]

theorem endsSo_iff (n : PyStr) :
    (endswith n ".so".toList || (!(n.rtakeWhile Char.isDigit).isEmpty &&
      endswith (n.rdrop (n.rtakeWhile Char.isDigit).length) ".so.".toList)) = true ↔
      EndsInSharedObjectSuffix n := by
  simp only [Bool.or_eq_true, Bool.and_eq_true, Bool.not_eq_true', List.isEmpty_eq_false,
    endswith_iff]
  refine or_congr Iff.rfl ⟨fun ⟨hne, hsuf⟩ => ?_, fun ⟨digits, hne, hd, u, hu⟩ => ?_⟩
  · obtain ⟨t, ht⟩ : n.rtakeWhile Char.isDigit <:+ n := List.rtakeWhile_suffix _ _
    have hdrop : n.rdrop (n.rtakeWhile Char.isDigit).length = t := by
      nth_rewrite 1 [← ht]
      exact List.rdrop_append_length
    obtain ⟨u, hu⟩ := hdrop ▸ hsuf
    exact ⟨_, hne, fun c hc => List.mem_rtakeWhile_imp hc, u, by rw [← List.append_assoc, hu, ht]⟩
  · have hr : n.rtakeWhile Char.isDigit = digits := by
      rw [← hu, show ".so.".toList ++ digits = ".so".toList ++ '.' :: digits from rfl,
        ← List.append_assoc]
      exact rtakeWhile_isDigit_append rfl hd
    refine ⟨hr ▸ hne, ?_⟩
    rw [hr, ← hu, ← List.append_assoc, List.rdrop_append_length]
    exact List.suffix_append u _

theorem isSharedObjectName_iff (name : PyStr) :
    isSharedObjectName name = true ↔
      EndsInSharedObjectSuffix name ∨ ∃ n, name = n ++ ['\n'] ∧ EndsInSharedObjectSuffix n := by
  unfold isSharedObjectName
  dsimp only
  rw [Bool.or_eq_true, endsSo_iff, Bool.and_eq_true, endsSo_iff, endswith_iff]
  refine or_congr Iff.rfl ⟨fun ⟨⟨t, ht⟩, hends⟩ => ?_, fun ⟨n, hn, hends⟩ => ?_⟩
  · rw [← ht] at hends ⊢
    exact ⟨t, rfl, by simpa using hends⟩
  · subst hn
    exact ⟨List.suffix_append n _, by simpa using hends⟩

example : isSharedObjectName "libvulkan.so.1".toList = true ∧
    isSharedObjectName "libfoo.so.1.2".toList = false := by
  decide

theorem mem_getSdkModulesForExclusion (walk : List (PyStr × List PyStr)) (name : PyStr) :
    name ∈ getSdkModulesForExclusion walk ↔
      ∃ entry ∈ walk, basename entry.1 ∈ ["dist".toList, "lib".toList] ∧ name ∈ entry.2 ∧
        isSharedObjectName name = true := by
  unfold getSdkModulesForExclusion
  refine Iff.trans ?_ (or_iff_right (Finset.not_mem_empty name))
  generalize (∅ : Finset PyStr) = acc
  generalize ["dist".toList, "lib".toList] = dirs
  induction walk generalizing acc with
  | nil => simp
  | cons entry walk ih =>
      rw [List.foldl_cons, ih]
      simp only [List.mem_cons, or_and_right, exists_or, exists_eq_left]
      split_ifs with hdir
      · rw [mem_foldl_insert (fun n => isSharedObjectName n = true) (fun n => n)]
        simp only [hdir, true_and, exists_eq_right_right, or_assoc]
      · simp only [hdir, false_and, false_or]

/-- `b` is the blob `GetBlobs` records under `blob_name` when it measures the blob
file named by `b.hash` in `far_extract_dir`. -/
def MeasuredAs (host : Host) (far_extract_dir blob_name : PyStr) (b : Blob) : Prop :=
  b.name = blob_name ∧
    getCompressedSize host.compressor_path (pathJoin far_extract_dir b.hash)
      (host.compress (pathJoin far_extract_dir b.hash)) = .ok b.compressed ∧
    host.getsize (pathJoin far_extract_dir b.hash) = .ok b.uncompressed

section Measure

variable {host : Host} {far_extract_dir : PyStr} {excluded_files : Finset PyStr}

theorem measureBlob_eq_ok {blobs blobs' : PyDict Blob} {blob_name blob_hash : PyStr}
    (h : measureBlob host far_extract_dir excluded_files blobs blob_name blob_hash = .ok blobs') :
    (basename blob_name ∈ excluded_files ∧ blobs' = blobs) ∨
      (basename blob_name ∉ excluded_files ∧ ∃ b, b.hash = blob_hash ∧
        MeasuredAs host far_extract_dir blob_name b ∧ blobs' = blobs.insert blob_name b) := by
  unfold measureBlob at h
  split_ifs at h with hx
  · exact .inl ⟨hx, (Except.ok.inj h).symm⟩
  · simp only [bind_eq_ok, mapError_eq_ok, pure_eq_ok] at h
    obtain ⟨c, hc, u, hu, h⟩ := h
    exact .inr ⟨hx, ⟨blob_name, blob_hash, c, u⟩, rfl, ⟨rfl, hc, hu⟩, (Except.ok.inj h).symm⟩

theorem foldlM_measureBlob {l : List (Σ _ : PyStr, PyStr)} {acc blobs : PyDict Blob}
    (h : l.foldlM (fun blobs e => measureBlob host far_extract_dir excluded_files blobs e.1 e.2)
      acc = .ok blobs) :
    (∀ n, n ∈ blobs ↔ n ∈ acc ∨ (n ∈ l.keys ∧ basename n ∉ excluded_files)) ∧
      ∀ n b, blobs.lookup n = some b →
        acc.lookup n = some b ∨ (⟨n, b.hash⟩ ∈ l ∧ MeasuredAs host far_extract_dir n b) := by
  induction l generalizing acc with
  | nil =>
      cases h
      simp
  | cons p l ih =>
      rw [List.foldlM_cons] at h
      obtain ⟨acc', hstep, hrest⟩ := bind_eq_ok.mp h
      obtain ⟨hkeys, hlookup⟩ := ih hrest
      rcases measureBlob_eq_ok hstep with ⟨hx, rfl⟩ | ⟨hx, b', hhash, hm, rfl⟩
      · refine ⟨fun n => ?_, fun n b hb => ?_⟩
        · by_cases hn : n = p.1
          · subst hn; simp [hkeys, hx]
          · simp [hkeys, hn]
        · rcases hlookup n b hb with hb | ⟨hmem, hm⟩
          · exact .inl hb
          · exact .inr ⟨List.mem_cons_of_mem _ hmem, hm⟩
      · refine ⟨fun n => ?_, fun n b hb => ?_⟩
        · by_cases hn : n = p.1
          · subst hn; simp [hkeys, hx]
          · simp [hkeys, hn, AList.mem_insert]
        · rcases hlookup n b hb with hb | ⟨hmem, hm⟩
          · by_cases hn : n = p.1
            · subst hn
              rw [AList.lookup_insert, Option.some_inj] at hb
              subst hb
              exact .inr ⟨by rw [hhash]; exact List.mem_cons_self _ _, hm⟩
            · exact .inl (by rwa [AList.lookup_insert_ne hn] at hb)
          · exact .inr ⟨List.mem_cons_of_mem _ hmem, hm⟩

end Measure

theorem getBlobs_eq_ok {host : Host} {far_file build_out_dir extract_dir : PyStr}
    {blobs : PyDict Blob} (h : getBlobs host far_file build_out_dir extract_dir = .ok blobs) :
    ∃ blob_name_hashes,
      getBlobNameHashes host (metaFarExtractDir extract_dir (farBaseName far_file)) =
        .ok blob_name_hashes ∧
      blob_name_hashes.entries.foldlM (fun blobs e =>
        measureBlob host (farExtractDir extract_dir (farBaseName far_file))
          (getSdkModulesForExclusion host.sdkWalk ∪ {"icudtl.dat".toList}) blobs e.1 e.2) ∅ =
        .ok blobs := by
  obtain ⟨-, -, -, -, blob_name_hashes, hnames, hloop⟩ := by
    simpa only [getBlobs, bind_eq_ok] using h
  exact ⟨blob_name_hashes, hnames, hloop⟩

/-- When `GetBlobs` returns, the package's `meta/contents` was read, the table holds exactly the
listed names whose file name is neither an SDK shared object nor `icudtl.dat`, and each
such name holds its listed hash and the sizes measured from the extracted blob file. -/
theorem getBlobs_spec {host : Host} {far_file build_out_dir extract_dir : PyStr}
    {blobs : PyDict Blob} (h : getBlobs host far_file build_out_dir extract_dir = .ok blobs) :
    ∃ blob_name_hashes,
      getBlobNameHashes host (metaFarExtractDir extract_dir (farBaseName far_file)) =
        .ok blob_name_hashes ∧
      (∀ n, n ∈ blobs ↔ n ∈ blob_name_hashes ∧
        basename n ∉ getSdkModulesForExclusion host.sdkWalk ∪ {"icudtl.dat".toList}) ∧
      ∀ n b, blobs.lookup n = some b → blob_name_hashes.lookup n = some b.hash ∧
        MeasuredAs host (farExtractDir extract_dir (farBaseName far_file)) n b := by
  obtain ⟨blob_name_hashes, hnames, hloop⟩ := getBlobs_eq_ok h
  obtain ⟨hkeys, hlookup⟩ := foldlM_measureBlob hloop
  refine ⟨blob_name_hashes, hnames, fun n => by simpa using hkeys n, fun n b hb => ?_⟩
  obtain hb | ⟨hmem, hm⟩ := hlookup n b hb
  · simp at hb
  · exact ⟨AList.mem_lookup_iff.mpr hmem, hm⟩

/-- A machine where every package lists `lib/libc.so` as the blob `1f`, which compresses
to two blocks, beside the SDK's `lib/libfdio.so` and `icudtl.dat`, which are excluded. -/
def libcHost : Host where
  far_tool := "far".toList
  compressor_path := "blobfs-compression".toList
  isfile := fun _ => true
  farExtract := fun _ _ => .ok ()
  read := fun _ => .ok "lib/libc.so=1f\nlib/libfdio.so=2e\nicudtl.dat=3d\n".toList
  sdkWalk := [("sdk/arch/x64/lib".toList, ["libfdio.so".toList, "libfdio.so.debug".toList])]
  compress := fun _ => ⟨0, "Wrote 16384 bytes (82% compression)".toList⟩
  getsize := fun _ => .ok 20000

def libcBlobs : PyDict Blob :=
  AList.singleton "lib/libc.so".toList ⟨"lib/libc.so".toList, "1f".toList, 16384, 20000⟩

theorem getBlobs_spec_libcHost :
    ∃ blob_name_hashes,
      getBlobNameHashes libcHost (metaFarExtractDir "/tmp/sizes".toList
        (farBaseName "web_engine.far".toList)) = .ok blob_name_hashes ∧
      (∀ n, n ∈ libcBlobs ↔ n ∈ blob_name_hashes ∧
        basename n ∉ getSdkModulesForExclusion libcHost.sdkWalk ∪ {"icudtl.dat".toList}) ∧
      ∀ n b, libcBlobs.lookup n = some b → blob_name_hashes.lookup n = some b.hash ∧
        MeasuredAs libcHost (farExtractDir "/tmp/sizes".toList (farBaseName "web_engine.far".toList))
          n b :=
  @getBlobs_spec libcHost "web_engine.far".toList "out/Release".toList "/tmp/sizes".toList
    libcBlobs rfl

end ChromiumBuildUtil.BinarySizes.Blobs
