import Again.Lib.Paths
import Again.Lib.Wildcard

/-!
# The glob matcher of the repository tools

The search over path segments returns `false` at a pair of positions it has seen
before. That is sound: a pair seen before either lies behind the current one, or
was searched to the end without a match.
-/

namespace Again.Gateway

open Lib

/-- `b'*'`. -/
def starToken : UInt8 := 42

/-- `b'?'`. -/
def anyByteToken : UInt8 := 63

/-- `current[index] = previous[index] || current[index - 1]`, where nothing stands before the first entry. -/
def starRow : Bool → List Bool → List Bool
  | _, [] => []
  | before, reached :: previous => (reached || before) :: starRow (reached || before) previous

/-- `current[index] = previous[index - 1] && (token == b'?' || token == value[index - 1])`. -/
def byteRow (token : UInt8) (value : Bytes) (previous : List Bool) : List Bool :=
  false :: previous.zipWith (fun reached byte => reached && (token == anyByteToken || token == byte)) value

def nextRow (value : Bytes) (previous : List Bool) (token : UInt8) : List Bool :=
  if token = starToken then starRow false previous else byteRow token value previous

def globSegmentMatchV1 (pattern value : Bytes) : Bool :=
  (pattern.foldl (nextRow value) (true :: List.replicate value.length false)).getD value.length false

/-- The second component is `visited` as the call leaves it. -/
def globSegmentsMatchV1 (pattern path : List Bytes) (patternIndex pathIndex : Nat) (visited : List (Nat × Nat)) :
    Bool × List (Nat × Nat) :=
  if (patternIndex, pathIndex) ∈ visited then (false, visited)
  else
    let visited := (patternIndex, pathIndex) :: visited
    if hi : patternIndex < pattern.length then
      if pattern[patternIndex] = [starToken, starToken] then
        match globSegmentsMatchV1 pattern path (patternIndex + 1) pathIndex visited with
        | (true, visited) => (true, visited)
        | (false, visited) =>
          if pathIndex < path.length then globSegmentsMatchV1 pattern path patternIndex (pathIndex + 1) visited
          else (false, visited)
      else if hj : pathIndex < path.length then
        if globSegmentMatchV1 pattern[patternIndex] path[pathIndex] then
          globSegmentsMatchV1 pattern path (patternIndex + 1) (pathIndex + 1) visited
        else (false, visited)
      else (false, visited)
    else (pathIndex == path.length, visited)
termination_by (pattern.length - patternIndex) + (path.length - pathIndex)

def globMatchesV1 (pattern path : Bytes) : Bool :=
  (globSegmentsMatchV1 (pattern.splitOn slash) (path.splitOn slash) 0 0 []).1

/-! ## What a pattern means -/

/-- `*` stands for any byte string, `?` for one byte, every other byte for itself. -/
def SegmentMatches : Bytes → Bytes → Prop :=
  Splits starToken fun token byte => token = anyByteToken ∨ token = byte

/-- `**` stands for any number of segments, every other segment for one that it matches. -/
def SegmentsMatch : List Bytes → List Bytes → Prop := Splits [starToken, starToken] SegmentMatches

/-! ## One segment -/

variable {row : List Bool}

theorem getElem?_starRow {before : Bool} {k : Nat} :
    (starRow before row)[k]? = some true ↔ k < row.length ∧ (before = true ∨ ∃ j ≤ k, row[j]? = some true) := by
  induction row generalizing before k with
  | nil => simp [starRow]
  | cons reached row ih =>
    cases k with
    | zero => cases reached <;> cases before <;> simp [starRow]
    | succ k =>
      rw [starRow, List.getElem?_cons_succ, ih, List.length_cons, Nat.add_lt_add_iff_right]
      refine and_congr_right fun _ => ?_
      constructor
      · rintro (h | ⟨j, hj, hreached⟩)
        · rcases Bool.or_eq_true_iff.mp h with rfl | rfl
          · exact .inr ⟨0, by omega, rfl⟩
          · exact .inl rfl
        · exact .inr ⟨j + 1, by omega, hreached⟩
      · rintro (rfl | ⟨_ | j, hj, hreached⟩)
        · simp
        · simp_all
        · exact .inr ⟨j, by omega, hreached⟩

theorem getElem?_byteRow {token : UInt8} {value : Bytes} {k : Nat} :
    (byteRow token value row)[k]? = some true ↔
      ∃ j byte, k = j + 1 ∧ row[j]? = some true ∧ value[j]? = some byte ∧ (token = anyByteToken ∨ token = byte) := by
  cases k with
  | zero => simp [byteRow]
  | succ k => simp [byteRow, List.getElem?_zipWith_eq_some]

theorem length_nextRow {value : Bytes} (token : UInt8) (h : row.length = value.length + 1) :
    (nextRow value row token).length = value.length + 1 := by
  have hstar : ∀ before (row : List Bool), (starRow before row).length = row.length := fun before row => by
    induction row generalizing before with
    | nil => rfl
    | cons reached row ih => simp [starRow, ih]
  unfold nextRow byteRow
  split
  · rw [hstar, h]
  · simp [h]

/-- The remaining tokens finish the value from one of the positions the row has reached. -/
theorem foldl_nextRow (value pattern : Bytes) (row : List Bool) (h : row.length = value.length + 1) :
    (pattern.foldl (nextRow value) row)[value.length]? = some true ↔
      ∃ k, row[k]? = some true ∧ SegmentMatches pattern (value.drop k) := by
  induction pattern generalizing row with
  | nil =>
    simp only [List.foldl_nil, SegmentMatches, splits_nil, List.drop_eq_nil_iff]
    constructor
    · exact fun hlast => ⟨_, hlast, le_rfl⟩
    · rintro ⟨k, hk, hle⟩
      obtain ⟨hlt, -⟩ := List.getElem?_eq_some_iff.mp hk
      rwa [show value.length = k by omega]
  | cons token pattern ih =>
    rw [List.foldl_cons, ih _ (length_nextRow token h), nextRow]
    unfold SegmentMatches
    split
    · rename_i hstar
      subst hstar
      simp only [getElem?_starRow, splits_any, Bool.false_eq_true, false_or, List.length_drop, List.drop_drop]
      constructor
      · rintro ⟨k, ⟨hk, j, hj, hreached⟩, hrest⟩
        exact ⟨j, hreached, k - j, by omega, by rwa [show j + (k - j) = k by omega]⟩
      · rintro ⟨j, hreached, n, hn, hrest⟩
        obtain ⟨hlt, -⟩ := List.getElem?_eq_some_iff.mp hreached
        exact ⟨j + n, ⟨by omega, j, by omega, hreached⟩, hrest⟩
    · rename_i hstar
      simp only [getElem?_byteRow, splits_one hstar, exists_drop_eq_cons]
      constructor
      · rintro ⟨_, ⟨j, byte, rfl, hreached, hbyte, hfits⟩, hrest⟩
        obtain ⟨hlt, rfl⟩ := List.getElem?_eq_some_iff.mp hbyte
        exact ⟨j, hreached, hlt, hfits, hrest⟩
      · rintro ⟨j, hreached, hlt, hfits, hrest⟩
        exact ⟨j + 1, ⟨j, _, rfl, hreached, List.getElem?_eq_getElem hlt, hfits⟩, hrest⟩

theorem globSegmentMatchV1_iff (pattern value : Bytes) :
    globSegmentMatchV1 pattern value = true ↔ SegmentMatches pattern value := by
  have hrow : ∀ k, (true :: List.replicate value.length false)[k]? = some true ↔ k = 0 := by
    rintro (_ | k) <;> simp [List.getElem?_replicate]
  have hlast : ∀ entry : Option Bool, entry.getD false = true ↔ entry = some true := by
    rintro (_ | entry) <;> simp
  rw [globSegmentMatchV1, List.getD_eq_getElem?_getD, hlast, foldl_nextRow _ _ _ (by simp)]
  simp [hrow]

/-! ## The search over segments -/

variable {pattern path : List Bytes} {i j : Nat} {visited : List (Nat × Nat)}

/-- Nothing matches from this pair of positions on. -/
def Dead (pattern path : List Bytes) (p : Nat × Nat) : Prop :=
  ¬ SegmentsMatch (pattern.drop p.1) (path.drop p.2)

theorem dead_stars (hi : i < pattern.length) (h : pattern[i] = [starToken, starToken]) :
    Dead pattern path (i, j) ↔ Dead pattern path (i + 1, j) ∧ (j < path.length → Dead pattern path (i, j + 1)) := by
  unfold Dead SegmentsMatch
  rw [List.drop_eq_getElem_cons hi, h, splits_any_iff, exists_drop_eq_cons]
  simp

theorem dead_segment (hi : i < pattern.length) (h : pattern[i] ≠ [starToken, starToken]) :
    Dead pattern path (i, j) ↔
      ∀ hj : j < path.length, globSegmentMatchV1 pattern[i] path[j] = true → Dead pattern path (i + 1, j + 1) := by
  unfold Dead SegmentsMatch
  rw [List.drop_eq_getElem_cons hi, splits_one h, exists_drop_eq_cons]
  simp [globSegmentMatchV1_iff]

/-- What a search from `start` returns: whether there is a match, and after a search in vain only dead pairs more. -/
structure Searched (pattern path : List Bytes) (start : Nat × Nat) (visited : List (Nat × Nat))
    (result : Bool × List (Nat × Nat)) : Prop where
  found : result.1 = true ↔ ¬ Dead pattern path start
  visits : result.1 = false → ∀ p ∈ result.2, p ∈ visited ∨ Dead pattern path p

variable {start : Nat × Nat}

theorem Searched.dead {seen : List (Nat × Nat)} (h : Searched pattern path start visited (false, seen)) :
    Dead pattern path start := by
  simpa using h.found

/-- The start itself may be put among the visited pairs first. -/
theorem Searched.enter {result : Bool × List (Nat × Nat)}
    (h : Searched pattern path start (start :: visited) result) : Searched pattern path start visited result := by
  refine ⟨h.found, fun hvain p hp => ?_⟩
  have hstart : Dead pattern path start := by simpa [hvain] using h.found
  rcases h.visits hvain p hp with hmem | hdead
  · rcases List.mem_cons.mp hmem with rfl | hmem
    · exact .inr hstart
    · exact .inl hmem
  · exact .inr hdead

/-- What the search knows of a pair holds after the start is put among the visited ones. -/
theorem ahead_cons (h : ∀ p ∈ visited, start ≤ p → Dead pattern path p) {q : Nat × Nat}
    (hlt : start < q) : ∀ p ∈ start :: visited, q ≤ p → Dead pattern path p := by
  intro p hp hq
  rcases List.mem_cons.mp hp with rfl | hp
  · exact absurd hq hlt.not_ge
  · exact h p hp (hlt.le.trans hq)

-- A visited pair that does not lie ahead is still being searched, so nothing is assumed of it.
theorem searched_globSegmentsMatchV1 (hj : j ≤ path.length) (h : ∀ p ∈ visited, (i, j) ≤ p → Dead pattern path p) :
    Searched pattern path (i, j) visited (globSegmentsMatchV1 pattern path i j visited) := by
  fun_induction globSegmentsMatchV1 pattern path i j visited with
  | case1 i j visited hseen => exact ⟨by simpa using h _ hseen le_rfl, fun _ p hp => .inl hp⟩
  | case2 i j visited _ all hi hstars seen hfirst first =>
    have hfound := first hj (ahead_cons h (by simp))
    rw [hfirst] at hfound
    exact ⟨by rw [dead_stars hi hstars]; simp [hfound.found.mp rfl], by simp⟩
  | case3 i j visited _ all hi hstars seen hfirst hlt first second =>
    have hvain := first hj (ahead_cons h (by simp))
    rw [hfirst] at hvain
    have hrest := second hlt fun p hp hle => (hvain.visits rfl p hp).elim (ahead_cons h (by simp) p · hle) id
    refine .enter ⟨?_, fun hfalse p hp => (hrest.visits hfalse p hp).elim (hvain.visits rfl p) .inr⟩
    rw [hrest.found, dead_stars (j := j) hi hstars, and_iff_right hvain.dead, forall_prop_of_true hlt]
  | case4 i j visited _ all hi hstars seen hfirst hge first =>
    have hvain := first hj (ahead_cons h (by simp))
    rw [hfirst] at hvain
    exact .enter ⟨by rw [dead_stars hi hstars]; simp [hvain.dead, hge], hvain.visits⟩
  | case5 i j visited _ all hi hstars hlt hmatch next =>
    have hnext := next hlt (ahead_cons h (by simp))
    exact .enter ⟨by rw [hnext.found]; simp [dead_segment hi hstars, hmatch, hlt], hnext.visits⟩
  | case6 i j visited _ all hi hstars _ hend | case7 i j visited _ all hi hstars hend =>
    exact .enter ⟨by simp [dead_segment hi hstars, hend], fun _ p hp => .inl hp⟩
  | case8 i j visited _ all hi =>
    refine .enter ⟨?_, fun _ p hp => .inl hp⟩
    simp [Dead, SegmentsMatch, List.drop_eq_nil_of_le (not_lt.mp hi)]
    omega

/-- The matcher decides whether the segments of the path can be split among those of the pattern. -/
theorem glob_matches_iff_split (pattern path : Bytes) :
    globMatchesV1 pattern path = true ↔ SegmentsMatch (pattern.splitOn slash) (path.splitOn slash) := by
  have hsearch := (@searched_globSegmentsMatchV1 (pattern.splitOn slash) (path.splitOn slash) 0 0 [] (by simp)
      (by simp)).found
  rwa [Dead, not_not] at hsearch

end Again.Gateway
