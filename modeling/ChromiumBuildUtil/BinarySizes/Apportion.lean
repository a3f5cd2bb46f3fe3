import ChromiumBuildUtil.BinarySizes.Blobs
import Mathlib.Algebra.Order.Field.Rat
import Mathlib.Algebra.BigOperators.Group.Finset
import Mathlib.Algebra.Order.BigOperators.Group.List
import Mathlib.Tactic.NormNum

/-!
The share-apportionment stage of `GetPackageSizes`. Each package table maps the
names of the package's blobs to their measurements; a blob name held by `k` packages
is charged to each of them for `1/k` of its sizes. The count is kept per blob name,
not per content hash.
-/

namespace ChromiumBuildUtil.BinarySizes.Apportion

open ChromiumBuildUtil.Python
open ChromiumBuildUtil.BinarySizes.Blobs

/-- `PackageSizes`: the apportioned sizes of a package. The compressed total adds
`float` quotients, kept as exact rationals; the uncompressed total adds `int`
quotients, which Python 2 floors. -/
structure PackageSizes where
  compressed : ℚ
  uncompressed : Nat

/-- `blob_counts`: for each blob name, the number of packages whose table has it. -/
def blobCounts (package_blobs : PyDict (PyDict Blob)) : PyStr → Nat :=
  package_blobs.entries.foldl
    (fun blob_counts p =>
      p.2.keys.foldl (fun blob_counts blob_name =>
        Function.update blob_counts blob_name (blob_counts blob_name + 1)) blob_counts)
    fun _ => 0

/-- The sizes of one package: each blob's sizes divided by its share count. -/
def packageSize (blob_counts : PyStr → Nat) (blobs : PyDict Blob) : PackageSizes :=
  blobs.entries.foldl
    (fun total e =>
      let count := blob_counts e.1
      ⟨total.compressed + (e.2.compressed : ℚ) / count, total.uncompressed + e.2.uncompressed / count⟩)
    ⟨0, 0⟩

/-- The share-apportionment stage of `GetPackageSizes`: count the packages sharing
each blob, then divide. -/
def apportion (package_blobs : PyDict (PyDict Blob)) : PyDict PackageSizes :=
  package_blobs.entries.foldl
    (fun package_sizes p => package_sizes.insert p.1 (packageSize (blobCounts package_blobs) p.2)) ∅

/-- One turn of the loop of `GetPackageSizes` over `far_files`: measure a package
under its base name, which no earlier package may have. -/
def addPackage (host : Host) (build_out_dir extract_dir : PyStr)
    (package_blobs : PyDict (PyDict Blob)) (far_file : PyStr) :
    Except PyExc (PyDict (PyDict Blob)) :=
  let package_name := farBaseName far_file
  if package_name ∈ package_blobs then
    .error (.exception ("Duplicate FAR file base name \"".toList ++ package_name ++ "\".".toList))
  else
    (getBlobs host far_file build_out_dir extract_dir).map fun blobs =>
      package_blobs.insert package_name blobs

/-- The loop of `GetPackageSizes` over `far_files`: the table of every package. -/
def packageBlobs (host : Host) (far_files : List PyStr) (build_out_dir extract_dir : PyStr) :
    Except PyExc (PyDict (PyDict Blob)) :=
  far_files.foldlM (addPackage host build_out_dir extract_dir) ∅

/-- `GetPackageSizes`, without the table of blob sizes it prints. -/
def getPackageSizes (host : Host) (far_files : List PyStr) (build_out_dir extract_dir : PyStr) :
    Except PyExc (PyDict PackageSizes) := do
  let package_blobs ← packageBlobs host far_files build_out_dir extract_dir
  pure (apportion package_blobs)

theorem blobCounts_eq (package_blobs : PyDict (PyDict Blob)) (n : PyStr) :
    blobCounts package_blobs n = (package_blobs.entries.map fun p => p.2.keys.count n).sum := by
  suffices ∀ (l : List (Σ _ : PyStr, PyDict Blob)) (c : PyStr → Nat),
      (l.foldl (fun blob_counts p => p.2.keys.foldl (fun blob_counts blob_name =>
        Function.update blob_counts blob_name (blob_counts blob_name + 1)) blob_counts) c) n =
        c n + (l.map fun p => p.2.keys.count n).sum by
    simpa using this package_blobs.entries fun _ => 0
  intro l
  induction l with
  | nil => simp
  | cons p l ih =>
      intro c
      rw [List.foldl_cons, ih, foldl_update_count, List.map_cons, List.sum_cons]
      omega

theorem packageSize_eq (blob_counts : PyStr → Nat) (blobs : PyDict Blob) :
    packageSize blob_counts blobs =
      ⟨(blobs.entries.map fun e => (e.2.compressed : ℚ) / blob_counts e.1).sum,
        (blobs.entries.map fun e => e.2.uncompressed / blob_counts e.1).sum⟩ := by
  suffices ∀ (l : List (Σ _ : PyStr, Blob)) (t : PackageSizes),
      l.foldl (fun total e => ⟨total.compressed + (e.2.compressed : ℚ) / blob_counts e.1,
        total.uncompressed + e.2.uncompressed / blob_counts e.1⟩) t =
      ⟨t.compressed + (l.map fun e => (e.2.compressed : ℚ) / blob_counts e.1).sum,
        t.uncompressed + (l.map fun e => e.2.uncompressed / blob_counts e.1).sum⟩ by
    simpa using this blobs.entries ⟨0, 0⟩
  intro l
  induction l with
  | nil => simp
  | cons e l ih =>
      intro t
      rw [List.foldl_cons, ih]
      simp only [List.map_cons, List.sum_cons, PackageSizes.mk.injEq]
      exact ⟨add_assoc _ _ _, add_assoc _ _ _⟩

theorem apportion_entries (package_blobs : PyDict (PyDict Blob)) :
    (apportion package_blobs).entries =
      (package_blobs.entries.map fun p =>
        (⟨p.1, packageSize (blobCounts package_blobs) p.2⟩ : Σ _ : PyStr, PackageSizes)).reverse := by
  rw [apportion, entries_foldl_insert (fun _ blobs => packageSize (blobCounts package_blobs) blobs)
    _ _ package_blobs.nodupKeys (fun p _ => AList.not_mem_empty p.1), AList.empty_entries,
    List.append_nil]

theorem lookup_apportion (package_blobs : PyDict (PyDict Blob)) (p : PyStr) :
    (apportion package_blobs).lookup p =
      (package_blobs.lookup p).map (packageSize (blobCounts package_blobs)) :=
  lookup_foldl_insert (fun _ blobs => packageSize (blobCounts package_blobs) blobs) package_blobs p

theorem addPackage_eq_ok {host : Host} {build_out_dir extract_dir : PyStr}
    {package_blobs package_blobs' : PyDict (PyDict Blob)} {far_file : PyStr}
    (h : addPackage host build_out_dir extract_dir package_blobs far_file = .ok package_blobs') :
    farBaseName far_file ∉ package_blobs ∧
      ∃ blobs, getBlobs host far_file build_out_dir extract_dir = .ok blobs ∧
        package_blobs' = package_blobs.insert (farBaseName far_file) blobs := by
  unfold addPackage at h
  dsimp only at h
  split_ifs at h with hmem
  refine ⟨hmem, ?_⟩
  cases hb : getBlobs host far_file build_out_dir extract_dir with
  | error e => simp [hb] at h
  | ok blobs =>
      simp only [hb, map_ok] at h
      exact ⟨blobs, rfl, (Except.ok.inj h).symm⟩

theorem addPackage_of_fresh {host : Host} {build_out_dir extract_dir : PyStr}
    {package_blobs : PyDict (PyDict Blob)} {far_file : PyStr} {blobs : PyDict Blob}
    (hfresh : farBaseName far_file ∉ package_blobs)
    (hget : getBlobs host far_file build_out_dir extract_dir = .ok blobs) :
    addPackage host build_out_dir extract_dir package_blobs far_file =
      .ok (package_blobs.insert (farBaseName far_file) blobs) := by
  unfold addPackage
  rw [if_neg hfresh, hget]
  rfl

/-- The loop of `GetPackageSizes` finishes exactly when the base names of `far_files`
are distinct, none is already in the table, and `GetBlobs` measures every file. -/
theorem foldlM_addPackage_ok_iff {host : Host} {build_out_dir extract_dir : PyStr}
    {far_files : List PyStr} {package_blobs : PyDict (PyDict Blob)} :
    (∃ package_blobs', far_files.foldlM (addPackage host build_out_dir extract_dir)
        package_blobs = .ok package_blobs') ↔
      (∀ f ∈ far_files, farBaseName f ∉ package_blobs) ∧ (far_files.map farBaseName).Nodup ∧
        ∀ f ∈ far_files, ∃ blobs, getBlobs host f build_out_dir extract_dir = .ok blobs := by
  induction far_files generalizing package_blobs with
  | nil => simp
  | cons f fs ih =>
      simp only [List.foldlM_cons, List.forall_mem_cons, List.map_cons, List.nodup_cons,
        List.mem_map, not_exists, not_and]
      constructor
      · rintro ⟨package_blobs', h⟩
        obtain ⟨acc, hstep, hrest⟩ := bind_eq_ok.mp h
        obtain ⟨hf, blobs, hget, rfl⟩ := addPackage_eq_ok hstep
        obtain ⟨hfresh, hnodup, hgets⟩ := ih.mp ⟨_, hrest⟩
        have hfs : ∀ g ∈ fs, farBaseName g ≠ farBaseName f ∧ farBaseName g ∉ package_blobs :=
          fun g hg => by simpa only [AList.mem_insert, not_or] using hfresh g hg
        exact ⟨⟨hf, fun g hg => (hfs g hg).2⟩, ⟨fun g hg => (hfs g hg).1, hnodup⟩, ⟨_, hget⟩,
          hgets⟩
      · rintro ⟨⟨hf, hfs⟩, ⟨hne, hnodup⟩, ⟨blobs, hget⟩, hgets⟩
        have hfresh : ∀ g ∈ fs, farBaseName g ∉ package_blobs.insert (farBaseName f) blobs :=
          fun g hg => by simpa only [AList.mem_insert, not_or] using And.intro (hne g hg) (hfs g hg)
        obtain ⟨package_blobs', h⟩ := ih.mpr ⟨hfresh, hnodup, hgets⟩
        exact ⟨package_blobs', by rw [addPackage_of_fresh hf hget]; exact h⟩

theorem getPackageSizes_eq_ok {host : Host} {far_files : List PyStr}
    {build_out_dir extract_dir : PyStr} {package_sizes : PyDict PackageSizes}
    (h : getPackageSizes host far_files build_out_dir extract_dir = .ok package_sizes) :
    ∃ package_blobs, packageBlobs host far_files build_out_dir extract_dir = .ok package_blobs ∧
      package_sizes = apportion package_blobs := by
  obtain ⟨package_blobs, hloop, hps⟩ := bind_eq_ok.mp h
  exact ⟨package_blobs, hloop, (Except.ok.inj hps).symm⟩

theorem getPackageSizes_of_packageBlobs {host : Host} {far_files : List PyStr}
    {build_out_dir extract_dir : PyStr} {package_blobs : PyDict (PyDict Blob)}
    (hloop : packageBlobs host far_files build_out_dir extract_dir = .ok package_blobs) :
    getPackageSizes host far_files build_out_dir extract_dir = .ok (apportion package_blobs) := by
  rw [getPackageSizes, hloop]
  rfl

theorem nodup_of_getPackageSizes_ok {host : Host} {far_files : List PyStr}
    {build_out_dir extract_dir : PyStr} {package_sizes : PyDict PackageSizes}
    (h : getPackageSizes host far_files build_out_dir extract_dir = .ok package_sizes) :
    (far_files.map farBaseName).Nodup := by
  obtain ⟨package_blobs, hloop, -⟩ := getPackageSizes_eq_ok h
  exact (foldlM_addPackage_ok_iff.mp ⟨_, hloop⟩).2.1

def libcBlob : Blob := ⟨"lib/libc.so".toList, "1f".toList, 16384, 20000⟩

def libcTable : PyDict Blob := ⟨[⟨libcBlob.name, libcBlob⟩], by unfold List.NodupKeys; decide⟩

/-- `libcHost` with `web_engine.far` measured, then `cast_runner.far`. -/
def libcHostTables : PyDict (PyDict Blob) :=
  ((∅ : PyDict (PyDict Blob)).insert "web_engine".toList libcTable).insert "cast_runner".toList
    libcTable

theorem packageBlobs_libcHost :
    packageBlobs libcHost ["web_engine.far".toList, "cast_runner.far".toList]
      "out/Release".toList "/tmp/sizes".toList = .ok libcHostTables := rfl

theorem nodup_of_getPackageSizes_ok_libcHost :
    getPackageSizes libcHost ["web_engine.far".toList, "cast_runner.far".toList]
        "out/Release".toList "/tmp/sizes".toList = .ok (apportion libcHostTables) ∧
      (["web_engine.far".toList, "cast_runner.far".toList].map farBaseName).Nodup :=
  ⟨getPackageSizes_of_packageBlobs packageBlobs_libcHost,
    nodup_of_getPackageSizes_ok (getPackageSizes_of_packageBlobs packageBlobs_libcHost)⟩

theorem foldlM_addPackage_lookup {host : Host} {build_out_dir extract_dir : PyStr}
    {far_files : List PyStr} {acc package_blobs : PyDict (PyDict Blob)}
    (h : far_files.foldlM (addPackage host build_out_dir extract_dir) acc = .ok package_blobs)
    {name : PyStr} {blobs : PyDict Blob} (hb : package_blobs.lookup name = some blobs) :
    acc.lookup name = some blobs ∨ ∃ far_file ∈ far_files, name = farBaseName far_file ∧
      getBlobs host far_file build_out_dir extract_dir = .ok blobs := by
  induction far_files generalizing acc with
  | nil => cases h; exact .inl hb
  | cons f fs ih =>
      rw [List.foldlM_cons] at h
      obtain ⟨acc', hstep, hrest⟩ := bind_eq_ok.mp h
      obtain ⟨-, blobs', hblobs', rfl⟩ := addPackage_eq_ok hstep
      rcases ih hrest with hb | ⟨g, hg, rfl, hget⟩
      · by_cases hn : name = farBaseName f
        · subst hn
          rw [AList.lookup_insert, Option.some_inj] at hb
          exact .inr ⟨f, List.mem_cons_self _ _, rfl, hb ▸ hblobs'⟩
        · exact .inl (by rwa [AList.lookup_insert_ne hn] at hb)
      · exact .inr ⟨g, List.mem_cons_of_mem _ hg, rfl, hget⟩

theorem lookup_foldlM_addPackage_of_mem {host : Host} {build_out_dir extract_dir : PyStr}
    {far_files : List PyStr} {acc package_blobs : PyDict (PyDict Blob)}
    (h : far_files.foldlM (addPackage host build_out_dir extract_dir) acc = .ok package_blobs)
    {name : PyStr} (hn : name ∈ acc) : package_blobs.lookup name = acc.lookup name := by
  induction far_files generalizing acc with
  | nil => cases h; rfl
  | cons f fs ih =>
      rw [List.foldlM_cons] at h
      obtain ⟨acc', hstep, hrest⟩ := bind_eq_ok.mp h
      obtain ⟨hf, blobs, -, rfl⟩ := addPackage_eq_ok hstep
      have hne : name ≠ farBaseName f := fun heq => hf (heq ▸ hn)
      rw [ih hrest ((AList.mem_insert _).mpr (.inr hn)), AList.lookup_insert_ne hne]

theorem foldlM_addPackage_lookup_of_mem {host : Host} {build_out_dir extract_dir : PyStr}
    {far_files : List PyStr} {acc package_blobs : PyDict (PyDict Blob)}
    (h : far_files.foldlM (addPackage host build_out_dir extract_dir) acc = .ok package_blobs)
    {far_file : PyStr} (hf : far_file ∈ far_files) {blobs : PyDict Blob}
    (hget : getBlobs host far_file build_out_dir extract_dir = .ok blobs) :
    package_blobs.lookup (farBaseName far_file) = some blobs := by
  induction far_files generalizing acc with
  | nil => exact absurd hf (List.not_mem_nil _)
  | cons g fs ih =>
      rw [List.foldlM_cons] at h
      obtain ⟨acc', hstep, hrest⟩ := bind_eq_ok.mp h
      obtain ⟨-, blobs', hblobs', rfl⟩ := addPackage_eq_ok hstep
      rcases List.mem_cons.mp hf with rfl | hf
      · rw [lookup_foldlM_addPackage_of_mem hrest ((AList.mem_insert _).mpr (.inl rfl)),
          AList.lookup_insert, Except.ok.inj (hblobs'.symm.trans hget)]
      · exact ih hrest hf

section Order

variable {host : Host} {build_out_dir extract_dir : PyStr} {far_files far_files' : List PyStr}
  {package_blobs package_blobs' : PyDict (PyDict Blob)}

theorem lookup_of_foldlM_addPackage_perm (hperm : far_files.Perm far_files')
    (h : far_files.foldlM (addPackage host build_out_dir extract_dir) ∅ = .ok package_blobs)
    (h' : far_files'.foldlM (addPackage host build_out_dir extract_dir) ∅ = .ok package_blobs')
    {name : PyStr} {blobs : PyDict Blob} (hb : package_blobs.lookup name = some blobs) :
    package_blobs'.lookup name = some blobs := by
  rcases foldlM_addPackage_lookup h hb with hb | ⟨f, hf, rfl, hget⟩
  · cases hb
  · exact foldlM_addPackage_lookup_of_mem h' (hperm.subset hf) hget

theorem lookup_foldlM_addPackage_perm (hperm : far_files.Perm far_files')
    (h : far_files.foldlM (addPackage host build_out_dir extract_dir) ∅ = .ok package_blobs)
    (h' : far_files'.foldlM (addPackage host build_out_dir extract_dir) ∅ = .ok package_blobs')
    (name : PyStr) : package_blobs'.lookup name = package_blobs.lookup name :=
  Option.ext fun _ => ⟨lookup_of_foldlM_addPackage_perm hperm.symm h' h,
    lookup_of_foldlM_addPackage_perm hperm h h'⟩

theorem lookup_apportion_congr
    (h : ∀ name, package_blobs'.lookup name = package_blobs.lookup name) (name : PyStr) :
    (apportion package_blobs').lookup name = (apportion package_blobs).lookup name := by
  have hcounts : blobCounts package_blobs' = blobCounts package_blobs := funext fun n => by
    rw [blobCounts_eq, blobCounts_eq, ((entries_perm_of_lookup h).map _).sum_eq]
  rw [lookup_apportion, lookup_apportion, h, hcounts]

theorem getPackageSizes_perm (hperm : far_files.Perm far_files')
    {package_sizes : PyDict PackageSizes}
    (h : getPackageSizes host far_files build_out_dir extract_dir = .ok package_sizes) :
    ∃ package_sizes', getPackageSizes host far_files' build_out_dir extract_dir =
        .ok package_sizes' ∧ ∀ name, package_sizes'.lookup name = package_sizes.lookup name := by
  obtain ⟨package_blobs, hloop, rfl⟩ := getPackageSizes_eq_ok h
  obtain ⟨-, hnodup, hgets⟩ := foldlM_addPackage_ok_iff.mp ⟨_, hloop⟩
  obtain ⟨package_blobs', hloop'⟩ := foldlM_addPackage_ok_iff.mpr
    ⟨fun f _ => AList.not_mem_empty _, (hperm.map _).nodup_iff.mp hnodup,
      fun f hf => hgets f (hperm.symm.subset hf)⟩
  exact ⟨apportion package_blobs', getPackageSizes_of_packageBlobs hloop',
    lookup_apportion_congr (lookup_foldlM_addPackage_perm hperm hloop hloop')⟩

end Order

/-- Every blob of every package table, with the name it has there. -/
def blobOccurrences (package_blobs : PyDict (PyDict Blob)) : List (PyStr × Blob) :=
  package_blobs.entries.flatMap fun p => p.2.entries.map fun e => (e.1, e.2)

def compressedShare (package_blobs : PyDict (PyDict Blob)) (o : PyStr × Blob) : ℚ :=
  (o.2.compressed : ℚ) / blobCounts package_blobs o.1

/-- What the apportionment charges, over all packages, to the blobs of hash `h`. -/
def hashShare (package_blobs : PyDict (PyDict Blob)) (h : PyStr) : ℚ :=
  (((blobOccurrences package_blobs).filter (·.2.hash == h)).map (compressedShare package_blobs)).sum

/-- The compressed size of the blob of hash `h`, read at its first occurrence. -/
def blobCompressedSize (package_blobs : PyDict (PyDict Blob)) (h : PyStr) : ℚ :=
  (((blobOccurrences package_blobs).find? (·.2.hash == h)).map (·.2.compressed)).getD 0

/-- Content addressing: blobs with one hash have the same sizes. -/
def ContentAddressed (package_blobs : PyDict (PyDict Blob)) : Prop :=
  ∀ o ∈ blobOccurrences package_blobs, ∀ o' ∈ blobOccurrences package_blobs,
    o.2.hash = o'.2.hash → o.2.compressed = o'.2.compressed ∧ o.2.uncompressed = o'.2.uncompressed

instance (package_blobs : PyDict (PyDict Blob)) : Decidable (ContentAddressed package_blobs) :=
  inferInstanceAs (Decidable (∀ o ∈ _, ∀ o' ∈ _, _))

/-- Blob names and hashes correspond one to one across all the tables. -/
def NamesMatchHashes (package_blobs : PyDict (PyDict Blob)) : Prop :=
  ∀ o ∈ blobOccurrences package_blobs, ∀ o' ∈ blobOccurrences package_blobs,
    o.1 = o'.1 ↔ o.2.hash = o'.2.hash

instance (package_blobs : PyDict (PyDict Blob)) : Decidable (NamesMatchHashes package_blobs) :=
  inferInstanceAs (Decidable (∀ o ∈ _, ∀ o' ∈ _, _))

theorem length_filter_name (package_blobs : PyDict (PyDict Blob)) (n : PyStr) :
    ((blobOccurrences package_blobs).filter (·.1 == n)).length = blobCounts package_blobs n := by
  rw [← List.countP_eq_length_filter, blobOccurrences, List.countP_flatMap, blobCounts_eq]
  simp [Function.comp_def, List.countP_map, List.count_eq_countP, AList.keys, List.keys]

theorem sum_apportion (package_blobs : PyDict (PyDict Blob)) :
    ((apportion package_blobs).entries.map fun p => p.2.compressed).sum =
      ((blobOccurrences package_blobs).map (compressedShare package_blobs)).sum := by
  simp [apportion_entries, blobOccurrences, packageSize_eq, List.flatMap, List.sum_flatten,
    List.sum_reverse, Function.comp_def, compressedShare]

theorem sum_eq_sum_hashes {α : Type} [AddCommMonoid α] (share : PyStr × Blob → α)
    (l : List (PyStr × Blob)) (H : Finset PyStr) (hH : ∀ o ∈ l, o.2.hash ∈ H) :
    (l.map share).sum = ∑ h ∈ H, ((l.filter (·.2.hash == h)).map share).sum := by
  induction l with
  | nil => simp
  | cons o l ih =>
      have hcons : ∀ h, (((o :: l).filter (·.2.hash == h)).map share).sum =
          (if o.2.hash = h then share o else 0) + ((l.filter (·.2.hash == h)).map share).sum := by
        intro h
        by_cases hh : o.2.hash = h <;> simp [List.filter_cons, hh]
      rw [Finset.sum_congr rfl fun h _ => hcons h, Finset.sum_add_distrib, Finset.sum_ite_eq,
        if_pos (hH o (List.mem_cons_self _ _)), List.map_cons, List.sum_cons,
        ih fun o' ho' => hH o' (List.mem_cons_of_mem _ ho')]

section ContentAddressing

variable {package_blobs : PyDict (PyDict Blob)} {o : PyStr × Blob}

theorem filter_hash_eq_filter_name (hname : NamesMatchHashes package_blobs)
    (ho : o ∈ blobOccurrences package_blobs) :
    (blobOccurrences package_blobs).filter (·.2.hash == o.2.hash) =
      (blobOccurrences package_blobs).filter (·.1 == o.1) :=
  List.filter_congr fun o' ho' => by simp [hname o' ho' o ho]

theorem blobCounts_pos (ho : o ∈ blobOccurrences package_blobs) :
    0 < blobCounts package_blobs o.1 := by
  rw [← length_filter_name]
  exact List.length_pos_of_mem (List.mem_filter.mpr ⟨ho, by simp⟩)

/-- Under content addressing, with names and hashes in one-to-one correspondence, the
occurrences of a hash are the `blob_counts` many of one name, each charged the same
share. -/
theorem hashShare_eq_compressed (hsize : ContentAddressed package_blobs)
    (hname : NamesMatchHashes package_blobs) (ho : o ∈ blobOccurrences package_blobs) :
    hashShare package_blobs o.2.hash = o.2.compressed := by
  have hsame : ∀ o' ∈ (blobOccurrences package_blobs).filter (·.1 == o.1),
      compressedShare package_blobs o' = compressedShare package_blobs o := by
    intro o' ho'
    obtain ⟨ho', hn⟩ := List.mem_filter.mp ho'
    have hn : o'.1 = o.1 := by simpa using hn
    simp only [compressedShare, hn, (hsize o' ho' o ho ((hname o' ho' o ho).mp hn)).1]
  rw [hashShare, filter_hash_eq_filter_name hname ho, List.map_congr_left hsame, List.map_const',
    List.sum_replicate, length_filter_name, nsmul_eq_mul, compressedShare,
    mul_div_cancel₀ _ (Nat.cast_ne_zero.mpr (blobCounts_pos ho).ne')]

theorem hashShare_eq_blobCompressedSize (hsize : ContentAddressed package_blobs)
    (hname : NamesMatchHashes package_blobs) (ho : o ∈ blobOccurrences package_blobs) :
    hashShare package_blobs o.2.hash = blobCompressedSize package_blobs o.2.hash := by
  obtain ⟨o', hfind⟩ := Option.isSome_iff_exists.mp
    ((List.find?_isSome (p := fun o' : PyStr × Blob => o'.2.hash == o.2.hash)).mpr
      ⟨o, ho, beq_self_eq_true _⟩)
  have hh : o'.2.hash = o.2.hash := by simpa using List.find?_some hfind
  rw [blobCompressedSize, hfind, ← hh,
    hashShare_eq_compressed hsize hname (List.mem_of_find?_eq_some hfind)]
  rfl

theorem sum_apportion_compressed (hsize : ContentAddressed package_blobs)
    (hname : NamesMatchHashes package_blobs) :
    ((apportion package_blobs).entries.map fun p => p.2.compressed).sum =
      ∑ h ∈ ((blobOccurrences package_blobs).map (·.2.hash)).toFinset,
        blobCompressedSize package_blobs h := by
  rw [sum_apportion, sum_eq_sum_hashes _ _ _ fun o ho =>
    List.mem_toFinset.mpr (List.mem_map_of_mem (fun o : PyStr × Blob => o.2.hash) ho)]
  refine Finset.sum_congr rfl fun h hh => ?_
  obtain ⟨o, ho, rfl⟩ := List.mem_map.mp (List.mem_toFinset.mp hh)
  exact hashShare_eq_blobCompressedSize hsize hname ho

end ContentAddressing

def blobTable (b : Blob) : PyDict Blob := AList.singleton b.name b

theorem packageSize_blobTable (blob_counts : PyStr → Nat) (b : Blob) :
    packageSize blob_counts (blobTable b) =
      ⟨(b.compressed : ℚ) / blob_counts b.name, b.uncompressed / blob_counts b.name⟩ := by
  simp [packageSize_eq, blobTable]

def libfooBlob (hash : PyStr) : Blob := ⟨"lib/libfoo.so".toList, hash, 8192, 10000⟩

def libfdioBlob : Blob := ⟨"lib/libfdio.so".toList, "cc".toList, 4096, 5001⟩

/-- Two packages that each hold their own `lib/libfoo.so`, and two that share
`lib/libfdio.so`. -/
def reusedNameTables : PyDict (PyDict Blob) :=
  ⟨[⟨"web_engine".toList, blobTable (libfooBlob "aa".toList)⟩,
      ⟨"cast_runner".toList, blobTable (libfooBlob "bb".toList)⟩,
      ⟨"web_runner".toList, blobTable libfdioBlob⟩, ⟨"cast_shell".toList, blobTable libfdioBlob⟩],
    by unfold List.NodupKeys; decide⟩

/-- The blob `aa` is held by `web_engine` alone, yet is charged half its sizes, because
`blob_counts` counts the two packages that hold a `lib/libfoo.so`. The blob `cc` is held
by `web_runner` and `cast_shell`, which are charged 2500 bytes each of its 5001
uncompressed bytes, as Python 2 floors the `int` division. -/
theorem apportion_undercharges_reused_names :
    ContentAddressed reusedNameTables ∧
      blobOccurrences reusedNameTables =
        [("lib/libfoo.so".toList, libfooBlob "aa".toList),
          ("lib/libfoo.so".toList, libfooBlob "bb".toList),
          ("lib/libfdio.so".toList, libfdioBlob), ("lib/libfdio.so".toList, libfdioBlob)] ∧
      (apportion reusedNameTables).lookup "web_engine".toList = some ⟨4096, 5000⟩ ∧
      (apportion reusedNameTables).lookup "web_runner".toList = some ⟨2048, 2500⟩ ∧
      (apportion reusedNameTables).lookup "cast_shell".toList = some ⟨2048, 2500⟩ := by
  have hfoo : blobCounts reusedNameTables "lib/libfoo.so".toList = 2 := rfl
  have hfdio : blobCounts reusedNameTables "lib/libfdio.so".toList = 2 := rfl
  refine ⟨by decide, rfl, ?_, ?_, ?_⟩ <;>
    rw [lookup_apportion] <;>
    simp only [show reusedNameTables.lookup "web_engine".toList =
        some (blobTable (libfooBlob "aa".toList)) from rfl,
      show reusedNameTables.lookup "web_runner".toList = some (blobTable libfdioBlob) from rfl,
      show reusedNameTables.lookup "cast_shell".toList = some (blobTable libfdioBlob) from rfl,
      Option.map_some', packageSize_blobTable, libfooBlob, libfdioBlob, hfoo, hfdio] <;>
    norm_num

theorem contentAddressed_of_packageBlobs {host : Host} {far_files : List PyStr}
    {build_out_dir extract_dir : PyStr} {package_blobs : PyDict (PyDict Blob)}
    (hcompress : ∀ d d' blob_hash,
      host.compress (pathJoin d blob_hash) = host.compress (pathJoin d' blob_hash))
    (hgetsize : ∀ d d' blob_hash,
      host.getsize (pathJoin d blob_hash) = host.getsize (pathJoin d' blob_hash))
    (hloop : packageBlobs host far_files build_out_dir extract_dir = .ok package_blobs) :
    ContentAddressed package_blobs := by
  have hmeasured : ∀ o ∈ blobOccurrences package_blobs, ∃ d, MeasuredAs host d o.1 o.2 := by
    intro o ho
    obtain ⟨p, hp, ho⟩ := List.mem_flatMap.mp ho
    obtain ⟨e, he, rfl⟩ := List.mem_map.mp ho
    rcases foldlM_addPackage_lookup hloop (AList.mem_lookup_iff.mpr hp) with hb | ⟨f, -, -, hget⟩
    · simp at hb
    · obtain ⟨_, -, hblobs⟩ := getBlobs_eq_ok hget
      obtain hb | ⟨-, hm⟩ := (foldlM_measureBlob hblobs).2 e.1 e.2 (AList.mem_lookup_iff.mpr he)
      · simp at hb
      · exact ⟨_, hm⟩
  intro o ho o' ho' hhash
  obtain ⟨d, -, hc, hu⟩ := hmeasured o ho
  obtain ⟨d', -, hc', hu'⟩ := hmeasured o' ho'
  rw [hhash, hcompress d d'] at hc
  rw [hhash, hgetsize d d'] at hu
  obtain ⟨-, digits, hs, hsize⟩ := getCompressedSize_eq_ok.mp hc
  obtain ⟨-, digits', hs', hsize'⟩ := getCompressedSize_eq_ok.mp hc'
  rw [hs, Option.some_inj] at hs'
  exact ⟨by rw [hsize, hsize', hs'], Except.ok.inj (hu.symm.trans hu')⟩

theorem getPackageSizes_contentAddressed {host : Host} {far_files : List PyStr}
    {build_out_dir extract_dir : PyStr} {package_blobs : PyDict (PyDict Blob)}
    (hcompress : ∀ d d' blob_hash,
      host.compress (pathJoin d blob_hash) = host.compress (pathJoin d' blob_hash))
    (hgetsize : ∀ d d' blob_hash,
      host.getsize (pathJoin d blob_hash) = host.getsize (pathJoin d' blob_hash))
    (hloop : packageBlobs host far_files build_out_dir extract_dir = .ok package_blobs) :
    getPackageSizes host far_files build_out_dir extract_dir = .ok (apportion package_blobs) ∧
      ContentAddressed package_blobs :=
  ⟨getPackageSizes_of_packageBlobs hloop, contentAddressed_of_packageBlobs hcompress hgetsize hloop⟩

theorem getPackageSizes_contentAddressed_libcHost :
    getPackageSizes libcHost ["web_engine.far".toList, "cast_runner.far".toList]
        "out/Release".toList "/tmp/sizes".toList = .ok (apportion libcHostTables) ∧
      ContentAddressed libcHostTables :=
  getPackageSizes_contentAddressed (fun _ _ _ => rfl) (fun _ _ _ => rfl) packageBlobs_libcHost

def sharedLibcTables : PyDict (PyDict Blob) :=
  ⟨[⟨"web_engine".toList, libcTable⟩, ⟨"cast_runner".toList, libcTable⟩,
      ⟨"web_runner".toList, libcTable⟩],
    by unfold List.NodupKeys; decide⟩

theorem blobCounts_insert (package_blobs : PyDict (PyDict Blob)) {q : PyStr} (Q : PyDict Blob)
    (hq : q ∉ package_blobs) (n : PyStr) :
    blobCounts (package_blobs.insert q Q) n = blobCounts package_blobs n + Q.keys.count n := by
  rw [blobCounts_eq, blobCounts_eq, AList.insert_entries_of_neg hq, List.map_cons, List.sum_cons,
    Nat.add_comm]

theorem blobCounts_pos_of_lookup {package_blobs : PyDict (PyDict Blob)} {P n : PyStr}
    {blobs : PyDict Blob} (hP : package_blobs.lookup P = some blobs) (hn : n ∈ blobs) :
    0 < blobCounts package_blobs n := by
  rw [blobCounts_eq]
  exact lt_of_lt_of_le (List.count_pos_iff.mpr hn)
    (List.le_sum_of_mem (List.mem_map_of_mem (fun p : Σ _ : PyStr, PyDict Blob => p.2.keys.count n)
      (AList.mem_lookup_iff.mp hP)))

theorem packageSize_antitone {c d : PyStr → Nat} {blobs : PyDict Blob}
    (hpos : ∀ n ∈ blobs, 0 < c n) (hle : ∀ n ∈ blobs, c n ≤ d n) :
    (packageSize d blobs).compressed ≤ (packageSize c blobs).compressed ∧
      (packageSize d blobs).uncompressed ≤ (packageSize c blobs).uncompressed := by
  rw [packageSize_eq, packageSize_eq]
  constructor <;> refine List.sum_le_sum fun e he => ?_
  · have hn : e.1 ∈ blobs := List.mem_keys_of_mem he
    exact div_le_div_of_nonneg_left (Nat.cast_nonneg _) (Nat.cast_pos.mpr (hpos _ hn))
      (Nat.cast_le.mpr (hle _ hn))
  · have hn : e.1 ∈ blobs := List.mem_keys_of_mem he
    exact Nat.div_le_div_left (hle _ hn) (hpos _ hn)

theorem packageSize_congr {c d : PyStr → Nat} {blobs : PyDict Blob}
    (h : ∀ n ∈ blobs, d n = c n) : packageSize d blobs = packageSize c blobs := by
  rw [packageSize_eq, packageSize_eq]
  congr 2 <;> exact List.map_congr_left fun e he => by rw [h _ (List.mem_keys_of_mem he)]

/-- A package's apportioned sizes do not grow when a further package is measured, stay the
same when that package has none of its blob names, and never exceed the raw sums of its
own blobs. -/
theorem apportion_insert_le (package_blobs : PyDict (PyDict Blob)) {q : PyStr} (Q : PyDict Blob)
    (hq : q ∉ package_blobs) {P : PyStr} {blobs : PyDict Blob}
    (hP : package_blobs.lookup P = some blobs) :
    ∃ s s', (apportion package_blobs).lookup P = some s ∧
      (apportion (package_blobs.insert q Q)).lookup P = some s' ∧
      s'.compressed ≤ s.compressed ∧ s'.uncompressed ≤ s.uncompressed ∧
      ((∀ n ∈ blobs, n ∉ Q) → s' = s) ∧
      s.compressed ≤ (blobs.entries.map fun e => (e.2.compressed : ℚ)).sum ∧
      s.uncompressed ≤ (blobs.entries.map fun e => e.2.uncompressed).sum := by
  have hPq : P ≠ q := fun h => hq (h ▸ AList.lookup_isSome.mp (by simp [hP]))
  have hpos : ∀ n ∈ blobs, 0 < blobCounts package_blobs n := fun n hn =>
    blobCounts_pos_of_lookup hP hn
  have hone : packageSize (fun _ => 1) blobs =
      ⟨(blobs.entries.map fun e => (e.2.compressed : ℚ)).sum,
        (blobs.entries.map fun e => e.2.uncompressed).sum⟩ := by
    simp [packageSize_eq]
  have hraw := packageSize_antitone (c := fun _ => 1) (fun _ _ => Nat.one_pos) hpos
  rw [hone] at hraw
  obtain ⟨hc, hu⟩ := packageSize_antitone (d := blobCounts (package_blobs.insert q Q)) hpos
    fun n _ => by rw [blobCounts_insert _ _ hq]; omega
  refine ⟨_, _, by rw [lookup_apportion, hP]; rfl,
    by rw [lookup_apportion, AList.lookup_insert_ne hPq, hP]; rfl, hc, hu, ?_, hraw⟩
  intro hdisj
  exact packageSize_congr fun n hn => by
    rw [blobCounts_insert _ _ hq, List.count_eq_zero.mpr (hdisj n hn), Nat.add_zero]

theorem apportion_insert_le_sharedLibcTables :
    "cast_shell".toList ∉ sharedLibcTables ∧
    sharedLibcTables.lookup "web_engine".toList = some libcTable ∧
    ∃ s s', (apportion sharedLibcTables).lookup "web_engine".toList = some s ∧
      (apportion (sharedLibcTables.insert "cast_shell".toList libcTable)).lookup
        "web_engine".toList = some s' ∧
      s'.compressed ≤ s.compressed ∧ s'.uncompressed ≤ s.uncompressed ∧
      ((∀ n ∈ libcTable, n ∉ libcTable) → s' = s) ∧
      s.compressed ≤ (libcTable.entries.map fun e => (e.2.compressed : ℚ)).sum ∧
      s.uncompressed ≤ (libcTable.entries.map fun e => e.2.uncompressed).sum :=
  ⟨by decide, rfl, apportion_insert_le sharedLibcTables libcTable (by decide) rfl⟩

end ChromiumBuildUtil.BinarySizes.Apportion
