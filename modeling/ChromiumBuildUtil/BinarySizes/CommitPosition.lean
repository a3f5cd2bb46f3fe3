import ChromiumBuildUtil.BinarySizes.Blobs

/-!
`CommitPositionFromBuildProperty` of `fuchsia/binary_sizes.py`: the chromium commit
position in a build property such as `refs/heads/master@{#819458}` is the number of
the leftmost `{#<digits>}` in it. `main` accepts the property as `--test-revision-cp`
and does not use it; the function is proved to read back every position the
property's form writes.
-/

namespace ChromiumBuildUtil.BinarySizes.CommitPosition

open ChromiumBuildUtil.Python ChromiumBuildUtil.BinarySizes.Blobs

/-- The `position` group of `\{#(?P<position>\d+)\}` matched at the start of `s`. The
greedy digit run stops at a character that is no digit, so `re` backtracks into no
other match. -/
def matchCommitPosition (s : PyStr) : Option PyStr :=
  if startswith s "\x7b#".toList then
    let s := s.drop 2
    let digits := s.takeWhile Char.isDigit
    if digits ≠ [] ∧ startswith (s.dropWhile Char.isDigit) "\x7d".toList then some digits
    else none
  else none

/-- `CommitPositionFromBuildProperty`. -/
def commitPositionFromBuildProperty (value : PyStr) : Except PyExc Nat :=
  match reSearch matchCommitPosition value with
  | some position => .ok (decimalValue position)
  | none => .error (.runtimeError "Could not get chromium commit position from test arg.".toList)

/-- `s` starts with the marker `{#<digits>}` of a commit position, `digits` a nonempty
run of decimal digits. -/
def StartsWithMarker (s digits : PyStr) : Prop :=
  digits ≠ [] ∧ (∀ c ∈ digits, c.isDigit) ∧ "\x7b#".toList ++ digits ++ "\x7d".toList <+: s

instance (s digits : PyStr) : Decidable (StartsWithMarker s digits) :=
  inferInstanceAs (Decidable (_ ∧ _ ∧ _))

theorem matchCommitPosition_eq_some {s digits : PyStr} :
    matchCommitPosition s = some digits ↔ StartsWithMarker s digits := by
  constructor
  · intro h
    unfold matchCommitPosition at h
    by_cases hp : "\x7b#".toList <+: s
    · obtain ⟨u, rfl⟩ := hp
      rw [if_pos (startswith_append _ _),
        List.drop_left' (show "\x7b#".toList.length = 2 from rfl)] at h
      dsimp only at h
      by_cases hc : u.takeWhile Char.isDigit ≠ [] ∧ "\x7d".toList <+: u.dropWhile Char.isDigit
      · rw [if_pos (by simpa using hc), Option.some.injEq] at h
        subst h
        refine ⟨hc.1, fun c hc' => List.mem_takeWhile_imp hc', ?_⟩
        rw [List.append_assoc, List.prefix_append_right_inj]
        conv => rhs; rw [← List.takeWhile_append_dropWhile Char.isDigit u]
        exact List.prefix_append_right_inj _ |>.mpr hc.2
      · rw [if_neg (by simpa using hc)] at h
        cases h
    · rw [if_neg (by simpa using hp)] at h
      cases h
  · rintro ⟨hne, hd, rest, rfl⟩
    have hrun := @takeWhile_dropWhile_run _ _ rest '}' hd rfl
    have hs : "\x7b#".toList ++ digits ++ "\x7d".toList ++ rest =
        "\x7b#".toList ++ (digits ++ '}' :: rest) := by simp
    rw [hs, matchCommitPosition, if_pos (startswith_append _ _),
      List.drop_left' (show "\x7b#".toList.length = 2 from rfl)]
    dsimp only
    rw [hrun.1, hrun.2]
    exact if_pos ⟨hne, by simp⟩

theorem matchCommitPosition_of_ne {c : Char} (s : PyStr) (hc : c ≠ '{') :
    matchCommitPosition (c :: s) = none := by
  simp [matchCommitPosition, startswith, List.isPrefixOf, hc.symm]

theorem commitPositionFromBuildProperty_eq_ok_iff {value : PyStr} {n : Nat} :
    commitPositionFromBuildProperty value = .ok n ↔
      ∃ position, reSearch matchCommitPosition value = some position ∧
        n = decimalValue position := by
  unfold commitPositionFromBuildProperty
  cases reSearch matchCommitPosition value <;> simp [eq_comm]

/-- `CommitPositionFromBuildProperty` returns `n` exactly when the first marker
`{#<digits>}` of the value spells `n`, and raises its `RuntimeError` exactly when the
value holds no marker at all. -/
theorem commitPositionFromBuildProperty_spec (value : PyStr) :
    (∀ n, commitPositionFromBuildProperty value = .ok n ↔
      ∃ k digits, StartsWithMarker (value.drop k) digits ∧ n = decimalValue digits ∧
        ∀ j < k, ∀ d, ¬ StartsWithMarker (value.drop j) d) ∧
    (∀ e, commitPositionFromBuildProperty value = .error e ↔
      e = .runtimeError "Could not get chromium commit position from test arg.".toList ∧
        ∀ k digits, ¬ StartsWithMarker (value.drop k) digits) := by
  have hpat : ∀ s digits, matchCommitPosition s = some digits ↔ StartsWithMarker s digits :=
    fun _ _ => matchCommitPosition_eq_some
  refine ⟨fun n => ?_, fun e => ?_⟩
  · simp only [commitPositionFromBuildProperty_eq_ok_iff, reSearch_eq_some_iff hpat]
    exact ⟨fun ⟨p, ⟨k, hk, hlt⟩, hn⟩ => ⟨k, p, hk, hn, hlt⟩,
      fun ⟨k, p, hk, hn, hlt⟩ => ⟨p, ⟨k, hk, hlt⟩, hn⟩⟩
  · have hnone := reSearch_eq_none_iff hpat (s := value)
    unfold commitPositionFromBuildProperty
    cases h : reSearch matchCommitPosition value
    · simp only [Except.error.injEq, eq_comm, hnone.mp h, not_false_eq_true, implies_true,
        and_true]
    · simp only [reduceCtorEq, false_iff, not_and]
      exact fun _ hall => absurd (hnone.mpr hall) (by simp [h])

theorem digitChar_ten : ∀ d : Fin 10,
    (Nat.digitChar d).isDigit = true ∧ (Nat.digitChar d).toNat - '0'.toNat = d := by
  decide

theorem toDigitsCore_ten (fuel n : Nat) (ds : List Char) (h : n < fuel) :
    ∃ pre, Nat.toDigitsCore 10 fuel n ds = pre ++ ds ∧ pre ≠ [] ∧
      (∀ c ∈ pre, c.isDigit) ∧ decimalValue pre = n := by
  induction fuel generalizing n ds with
  | zero => omega
  | succ fuel ih =>
    obtain ⟨hdigit, hval⟩ := digitChar_ten ⟨n % 10, Nat.mod_lt _ (by decide)⟩
    have hstep : Nat.toDigitsCore 10 (fuel + 1) n ds =
        if n / 10 = 0 then Nat.digitChar (n % 10) :: ds
        else Nat.toDigitsCore 10 fuel (n / 10) (Nat.digitChar (n % 10) :: ds) := rfl
    rw [hstep]
    split_ifs with hq
    · refine ⟨[Nat.digitChar (n % 10)], rfl, List.cons_ne_nil _ _, by simpa using hdigit, ?_⟩
      simp only [decimalValue, List.foldl_cons, List.foldl_nil, hval]
      omega
    · obtain ⟨pre, hpre, hne, hd, hv⟩ := ih (n / 10) (Nat.digitChar (n % 10) :: ds) (by omega)
      refine ⟨pre ++ [Nat.digitChar (n % 10)], by simp [hpre], by simp, ?_, ?_⟩
      · simpa [or_imp, forall_and] using ⟨hd, hdigit⟩
      · simp only [decimalValue, List.foldl_append, List.foldl_cons, List.foldl_nil] at hv ⊢
        rw [hv, hval, Fin.val_mk]
        omega

theorem toDigits_ten (n : Nat) :
    Nat.toDigits 10 n ≠ [] ∧ (∀ c ∈ Nat.toDigits 10 n, c.isDigit) ∧
      decimalValue (Nat.toDigits 10 n) = n := by
  obtain ⟨pre, hpre, h⟩ := toDigitsCore_ten (n + 1) n [] n.lt_succ_self
  rw [show Nat.toDigits 10 n = Nat.toDigitsCore 10 (n + 1) n [] from rfl, hpre, List.append_nil]
  exact h

theorem commitPositionFromBuildProperty_toString (ref rest : PyStr) (n : Nat)
    (href : '{' ∉ ref) :
    commitPositionFromBuildProperty
      (ref ++ "\x7b#".toList ++ (toString n).toList ++ "\x7d".toList ++ rest) = .ok n := by
  obtain ⟨hne, hd, hv⟩ := toDigits_ten n
  have hrepr : (toString n).toList = Nat.toDigits 10 n := rfl
  rw [hrepr, commitPositionFromBuildProperty_eq_ok_iff]
  refine ⟨_, reSearch_eq_some.mpr ⟨ref.length, ?_, fun j hj => ?_⟩, hv.symm⟩
  · rw [matchCommitPosition_eq_some]
    exact ⟨hne, hd, rest, by simp only [List.append_assoc, List.drop_left]⟩
  · simp only [List.append_assoc, List.drop_append_of_le_length hj.le,
      List.drop_eq_getElem_cons hj, List.cons_append]
    exact matchCommitPosition_of_ne _ fun h => href (h ▸ List.getElem_mem hj)

theorem commitPositionFromBuildProperty_toString_master :
    '{' ∉ "refs/heads/master@".toList ∧
      commitPositionFromBuildProperty
        ("refs/heads/master@".toList ++ "\x7b#".toList ++ (toString 819458).toList ++
          "\x7d".toList ++ []) = .ok 819458 :=
  ⟨by decide, commitPositionFromBuildProperty_toString _ _ _ (by decide)⟩

end ChromiumBuildUtil.BinarySizes.CommitPosition
