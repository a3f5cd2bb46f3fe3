import Mathlib.Data.List.AList
import Mathlib.Data.List.DropRight
import Mathlib.Data.Finset.Basic

/-!
The Python 2 values and library calls that `check_gn_headers.py` and
`fuchsia/binary_sizes.py` rely on. A `str` is the list of its characters, a
`dict` with string keys is an association list with distinct keys, a `set` is a
finite set, and an exception is kept with the text `str(e)` gives. `strip`,
`rstrip`, `startswith`, `endswith`, `split`, `pathJoin` (`os.path.join` of
`posixpath`), `basename` and `setdefault` are the library calls of those names.
-/

namespace ChromiumBuildUtil.Python

abbrev PyStr := List Char

/-- A Python `dict` with `str` keys. Python 2 iterates a dictionary in an order
of its own; the model iterates it in the order of `entries`. -/
abbrev PyDict (α : Type) := AList fun _ : PyStr => α

/-- The characters `str.strip` removes: `string.whitespace` of Python 2. -/
def isSpace (c : Char) : Bool :=
  c == ' ' || c == '\t' || c == '\n' || c == '\r' || c == '\x0b' || c == '\x0c'

def strip (s : PyStr) : PyStr := (s.dropWhile isSpace).rdropWhile isSpace

def rstrip (s : PyStr) : PyStr := s.rdropWhile isSpace

def startswith (s p : PyStr) : Bool := p.isPrefixOf s

def endswith (s p : PyStr) : Bool := p.isSuffixOf s

def containsStr (s p : PyStr) : Bool := decide (p <:+: s)

def split (s : PyStr) (sep : Char) : List PyStr := s.splitOn sep

/-- The lines `readline` returns one after the other, each without its newline:
a last line with no newline is kept, and an empty text has no line at all. -/
def readLines (s : PyStr) : List PyStr :=
  let parts := split s '\n'
  if parts.getLast? = some [] then parts.dropLast else parts

def pathJoin (a b : PyStr) : PyStr :=
  if startswith b "/".toList then b
  else if a = [] ∨ endswith a "/".toList then a ++ b
  else a ++ '/' :: b

def basename (p : PyStr) : PyStr := p.rtakeWhile (· ≠ '/')

/-- The truth value of an optional string argument: `None` and `''` are false. -/
def truthy : Option PyStr → Bool
  | some s => !s.isEmpty
  | none => false

def setdefault {α : Type} (k : PyStr) (v : α) (d : PyDict α) : PyDict α :=
  if k ∈ d then d else d.insert k v

/-- `re.search` for a pattern whose match at the start of a string `m` computes: the
match at the leftmost position that has one, the empty suffix included. -/
def reSearch {α : Type} (m : PyStr → Option α) : PyStr → Option α
  | [] => m []
  | s@(_ :: rest) => (m s).orElse fun _ => reSearch m rest

/-- An exception the scripts raise or meet, with what `str(e)` needs of it. -/
inductive PyExc
  | keyError (key : PyStr)
  | attributeError (typeName attr : PyStr)
  | typeError (msg : PyStr)
  | valueError (msg : PyStr)
  | exception (msg : PyStr)
  | runtimeError (msg : PyStr)
  /-- The `Exception` `GetTestStatus` raises for a package missing from the sizes;
  its text also holds `str(package_sizes)`, whose float reprs are not modelled. -/
  | notInSizes (packageName : PyStr)
  /-- An exception from a tool run or a file operation, known by its text. -/
  | external (msg : PyStr)
  deriving DecidableEq, Repr

/-- `str(e)`. A `KeyError` shows its key quoted. -/
def PyExc.str : PyExc → PyStr
  | .keyError key => '\'' :: key ++ ['\'']
  | .attributeError typeName attr =>
      "'".toList ++ typeName ++ "' object has no attribute '".toList ++ attr ++ "'".toList
  | .typeError msg => msg
  | .valueError msg => msg
  | .exception msg => msg
  | .runtimeError msg => msg
  | .notInSizes packageName =>
      "package \"".toList ++ packageName ++ "\" not in sizes".toList
  | .external msg => msg

/-- How `main` ends. -/
inductive Exit
  | returned (code : Nat)
  /-- `parser.error(msg)`: usage and `msg` on stderr, exit status 2. -/
  | parserError (msg : PyStr)
  | raised (e : PyExc)
  deriving DecidableEq, Repr

@[simp] theorem startswith_iff {s p : PyStr} : startswith s p = true ↔ p <+: s :=
  List.isPrefixOf_iff_prefix

@[simp] theorem endswith_iff {s p : PyStr} : endswith s p = true ↔ p <:+ s :=
  List.isSuffixOf_iff_suffix

@[simp] theorem containsStr_iff {s p : PyStr} : containsStr s p = true ↔ p <:+: s :=
  decide_eq_true_iff

@[simp] theorem startswith_eq_false {s p : PyStr} : startswith s p = false ↔ ¬ p <+: s := by
  rw [← Bool.not_eq_true, startswith_iff]

@[simp] theorem endswith_eq_false {s p : PyStr} : endswith s p = false ↔ ¬ p <:+ s := by
  rw [← Bool.not_eq_true, endswith_iff]

@[simp] theorem containsStr_eq_false {s p : PyStr} : containsStr s p = false ↔ ¬ p <:+: s := by
  rw [← Bool.not_eq_true, containsStr_iff]

@[simp] theorem truthy_some {s : PyStr} : truthy (some s) = true ↔ s ≠ [] := by
  cases s <;> simp [truthy]

@[simp] theorem truthy_none : truthy none = false := rfl

theorem startswith_append (p s : PyStr) : startswith (p ++ s) p = true := by
  simp

theorem not_mem_basename (p : PyStr) : '/' ∉ basename p := fun h => by
  simpa using List.mem_rtakeWhile_imp h

theorem lookup_setdefault {α : Type} (k k' : PyStr) (v : α) (d : PyDict α) :
    (setdefault k v d).lookup k' =
      if k' = k ∧ k ∉ d then some v else d.lookup k' := by
  unfold setdefault
  by_cases hk : k ∈ d
  · simp [hk]
  · by_cases hk' : k' = k
    · subst hk'
      simp [hk]
    · simp [hk, hk', AList.lookup_insert_ne hk']

theorem mem_setdefault {α : Type} (k k' : PyStr) (v : α) (d : PyDict α) :
    k' ∈ setdefault k v d ↔ k' = k ∨ k' ∈ d := by
  unfold setdefault
  split_ifs with hk
  · constructor
    · exact Or.inr
    · rintro (rfl | h)
      · exact hk
      · exact h
  · exact AList.mem_insert _

theorem pathJoin_inj {a b b' : PyStr} (hb : ¬ "/".toList <+: b) (hb' : ¬ "/".toList <+: b')
    (h : pathJoin a b = pathJoin a b') : b = b' := by
  unfold pathJoin at h
  simp only [startswith_iff, hb, hb', if_false] at h
  split_ifs at h
  · exact List.append_cancel_left h
  · exact List.cons_injective (List.append_cancel_left h)

theorem mem_foldl_insert {α : Type} (P : α → Prop) [DecidablePred P] (g : α → PyStr)
    (l : List α) (acc : Finset PyStr) (p : PyStr) :
    p ∈ l.foldl (fun acc i => if P i then insert (g i) acc else acc) acc ↔
      p ∈ acc ∨ ∃ i ∈ l, P i ∧ g i = p := by
  induction l generalizing acc with
  | nil => simp
  | cons i l ih =>
      simp only [List.foldl_cons, ih, List.mem_cons, exists_eq_or_imp]
      split_ifs with hi
      · rw [Finset.mem_insert, eq_comm]
        simp only [hi, true_and, or_assoc, or_left_comm]
      · simp only [hi, false_and, false_or]

section Search

variable {α : Type} {m : PyStr → Option α}

theorem reSearch_cons (c : Char) (rest : PyStr) :
    reSearch m (c :: rest) = (m (c :: rest)).orElse fun _ => reSearch m rest := rfl

theorem reSearch_eq_none {s : PyStr} : reSearch m s = none ↔ ∀ k, m (s.drop k) = none := by
  induction s with
  | nil => simp [reSearch]
  | cons c rest ih =>
    rw [reSearch_cons]
    cases h : m (c :: rest) with
    | some b => exact ⟨nofun, fun hk => by simpa [h] using hk 0⟩
    | none =>
      rw [Option.orElse, ih]
      exact ⟨fun hk k => k.casesOn h hk, fun hk k => hk (k + 1)⟩

theorem reSearch_eq_some {s : PyStr} {a : α} :
    reSearch m s = some a ↔ ∃ k, m (s.drop k) = some a ∧ ∀ j < k, m (s.drop j) = none := by
  induction s with
  | nil => exact ⟨fun h => ⟨0, h, nofun⟩, fun ⟨_, h, _⟩ => by simpa using h⟩
  | cons c rest ih =>
    rw [reSearch_cons]
    cases h : m (c :: rest) with
    | some b =>
      rw [Option.orElse, Option.some.injEq]
      constructor
      · rintro rfl
        exact ⟨0, h, nofun⟩
      · rintro ⟨_ | k, hk, hlt⟩
        · exact Option.some.inj (h.symm.trans hk)
        · simpa [h] using hlt 0 k.succ_pos
    | none =>
      rw [Option.orElse, ih]
      constructor
      · rintro ⟨k, hk, hlt⟩
        refine ⟨k + 1, hk, ?_⟩
        rintro (_ | j) hj
        · exact h
        · exact hlt j (Nat.lt_of_succ_lt_succ hj)
      · rintro ⟨_ | k, hk, hlt⟩
        · simp [h] at hk
        · exact ⟨k, hk, fun j hj => hlt (j + 1) (Nat.succ_lt_succ hj)⟩

section Pattern

variable {P : PyStr → α → Prop} (hm : ∀ s a, m s = some a ↔ P s a)
include hm

theorem reSearch_eq_none_iff {s : PyStr} : reSearch m s = none ↔ ∀ k a, ¬ P (s.drop k) a := by
  rw [reSearch_eq_none]
  simp only [Option.eq_none_iff_forall_not_mem, Option.mem_def, hm]

theorem reSearch_eq_some_iff {s : PyStr} {a : α} :
    reSearch m s = some a ↔ ∃ k, P (s.drop k) a ∧ ∀ j < k, ∀ b, ¬ P (s.drop j) b := by
  rw [reSearch_eq_some]
  simp only [Option.eq_none_iff_forall_not_mem, Option.mem_def, hm]

end Pattern

theorem takeWhile_dropWhile_run {p : Char → Bool} {run rest : PyStr} {c : Char}
    (hrun : ∀ x ∈ run, p x) (hc : p c = false) :
    (run ++ c :: rest).takeWhile p = run ∧ (run ++ c :: rest).dropWhile p = c :: rest :=
  ⟨by rw [List.takeWhile_append_of_pos hrun, List.takeWhile_cons_of_neg (by simp [hc]),
      List.append_nil],
    by rw [List.dropWhile_append_of_pos hrun, List.dropWhile_cons_of_neg (by simp [hc])]⟩

end Search

section Exceptions

variable {ε α β : Type}

@[simp] theorem pure_eq_ok (a : α) : (pure a : Except ε α) = .ok a := rfl

@[simp] theorem ok_bind (a : α) (f : α → Except ε β) : (Except.ok a >>= f) = f a := rfl

@[simp] theorem error_bind (e : ε) (f : α → Except ε β) : (Except.error e >>= f) = .error e := rfl

@[simp] theorem map_ok (f : α → β) (a : α) : (Except.ok a : Except ε α).map f = .ok (f a) := rfl

@[simp] theorem map_error (f : α → β) (e : ε) : (Except.error e : Except ε α).map f = .error e := rfl

@[simp] theorem fmap_ok (f : α → β) (a : α) : (f <$> (Except.ok a : Except ε α)) = .ok (f a) := rfl

@[simp] theorem fmap_error (f : α → β) (e : ε) : (f <$> (Except.error e : Except ε α)) = .error e := rfl

theorem bind_eq_ok {x : Except ε α} {f : α → Except ε β} {b : β} :
    (x >>= f) = .ok b ↔ ∃ a, x = .ok a ∧ f a = .ok b := by
  cases x <;> simp

theorem mapError_eq_ok {ε' : Type} {x : Except ε α} {g : ε → ε'} {a : α} :
    x.mapError g = .ok a ↔ x = .ok a := by
  cases x <;> simp [Except.mapError]

end Exceptions

theorem entries_foldl_insert {α β : Type} (f : PyStr → α → β) (l : List (Σ _ : PyStr, α))
    (acc : PyDict β) (hl : l.NodupKeys) (hacc : ∀ p ∈ l, p.1 ∉ acc) :
    (l.foldl (fun acc p => acc.insert p.1 (f p.1 p.2)) acc).entries =
      (l.map fun p => (⟨p.1, f p.1 p.2⟩ : Σ _ : PyStr, β)).reverse ++ acc.entries := by
  induction l generalizing acc with
  | nil => rfl
  | cons p l ih =>
      obtain ⟨hp, hl⟩ := List.nodupKeys_cons.mp hl
      have hacc' : ∀ q ∈ l, q.1 ∉ acc.insert p.1 (f p.1 p.2) := fun q hq hmem => by
        rcases (AList.mem_insert _).mp hmem with h | h
        · exact hp (h ▸ List.mem_keys_of_mem hq)
        · exact hacc q (List.mem_cons_of_mem _ hq) h
      rw [List.foldl_cons, ih _ hl hacc',
        AList.insert_entries_of_neg (hacc p (List.mem_cons_self _ _))]
      simp

theorem foldl_update_count {κ : Type} [DecidableEq κ] [BEq κ] [LawfulBEq κ] (l : List κ)
    (c : κ → Nat) (k : κ) :
    (l.foldl (fun c k => Function.update c k (c k + 1)) c) k = c k + l.count k := by
  induction l generalizing c with
  | nil => rfl
  | cons j l ih =>
      rw [List.foldl_cons, ih, List.count_cons]
      by_cases h : k = j
      · subst h; simp; omega
      · simp [Function.update_noteq h, Ne.symm h]

theorem lookup_foldl_insert {α β : Type} (g : PyStr → α → β) (d : PyDict α) (k : PyStr) :
    (d.entries.foldl (fun (acc : PyDict β) p => acc.insert p.1 (g p.1 p.2)) ∅).lookup k =
      (d.lookup k).map (g k) := by
  have hnd : (d.entries.map fun p => (⟨p.1, g p.1 p.2⟩ : Σ _ : PyStr, β)).NodupKeys := by
    simpa [List.NodupKeys, List.keys] using d.nodupKeys
  rw [AList.lookup, entries_foldl_insert g _ _ d.nodupKeys (fun p _ => AList.not_mem_empty p.1),
    AList.empty_entries, List.append_nil,
    List.perm_dlookup k ((List.perm_nodupKeys (List.reverse_perm _)).mpr hnd) hnd
      (List.reverse_perm _)]
  exact List.dlookup_map₂ (l := d.entries) (f := g) k

theorem entries_perm_of_lookup {α : Type} {d d' : PyDict α} (h : ∀ k, d.lookup k = d'.lookup k) :
    d.entries.Perm d'.entries :=
  List.lookup_ext d.nodupKeys d'.nodupKeys fun k v => by
    show v ∈ d.lookup k ↔ v ∈ d'.lookup k
    rw [h]

theorem foldlM_insert_of_error {α β ε : Type} (f : PyStr → α → Except ε β)
    (l : List (Σ _ : PyStr, α)) (acc : PyDict β) (hf : ∃ p ∈ l, ∃ e, f p.1 p.2 = .error e) :
    ∃ e, l.foldlM (fun acc p => (f p.1 p.2).map (acc.insert p.1)) acc = .error e := by
  induction l generalizing acc with
  | nil =>
      obtain ⟨_, hp, -⟩ := hf
      exact absurd hp (List.not_mem_nil _)
  | cons p l ih =>
      rw [List.foldlM_cons]
      cases hp : f p.1 p.2 with
      | error e => exact ⟨e, rfl⟩
      | ok b =>
          obtain ⟨q, hq, e, he⟩ := hf
          rcases List.mem_cons.mp hq with rfl | hq
          · rw [hp] at he; cases he
          · exact ih _ ⟨q, hq, e, he⟩

end ChromiumBuildUtil.Python
