import Again.Team.LookupBundle

/-!
# Lookup-bundle framing

The reader takes a body apart exactly as the writer put it together, and
checking it chunk by chunk decides the same as checking it whole. Both follow
from one description of the header, `validateHeader_eq_ok`, and of what the
validator knows after any chunks, `Tracks`.
-/

namespace Again.Team

open Lib TeamLookupBundleStreamValidator

variable {body bytes : Bytes} {fields : UntrustedTeamLookupBundleV1} {chunks : List Bytes} {start n stop : Nat}

variable {budget : UInt64} {v : TeamLookupBundleStreamValidator} {seen : Bytes}

/-! ## Taking a byte string apart -/

theorem slice_middle {before word after : Bytes} (hstart : before.length = start) (hstop : start + word.length = stop) :
    slice (before ++ (word ++ after)) start stop = word := by
  subst hstart hstop
  simp [slice]

theorem slice_append_drop (h : start ≤ stop) : slice bytes start stop ++ bytes.drop stop = bytes.drop start := by
  have hstop : stop = start + (stop - start) := by omega
  rw [slice, hstop, ← List.drop_drop, Nat.add_sub_cancel_left, List.take_append_drop]

/-- A word of the body is the big-endian spelling of its value. -/
theorem beBytes_slice {width : Nat} (h : stop ≤ bytes.length) (hwidth : stop - start = width) :
    beBytes width (beNat (slice bytes start stop)) = slice bytes start stop := by
  have hlength : (slice bytes start stop).length = width := by
    rw [slice, List.length_take, List.length_drop]
    omega
  conv_lhs => rw [← hlength]
  exact beBytes_beNat _

/-! ## The header -/

/-- The field lengths are within their limits. -/
structure LookupBundleV1Lengths.Fit (lengths : LookupBundleV1Lengths) : Prop where
  trust_pos : 0 < lengths.trust
  manifest_pos : 0 < lengths.manifest
  trust_le : lengths.trust ≤ maxTrustBundleBytes
  manifest_le : lengths.manifest ≤ maxManifestBytes
  stdout_le : lengths.stdout ≤ maxBlobBytes
  stderr_le : lengths.stderr ≤ maxBlobBytes
  total_eq : lengths.total = 32 + lengths.trust + lengths.manifest + lengths.stdout + lengths.stderr

theorem length_utf8_magic : (utf8 "AGNBNDL1").length = 8 := by decide +kernel

@[simp] theorem length_encodeHeader (lengths : LookupBundleV1Lengths) : (encodeHeader lengths).length = 32 := by
  simp [encodeHeader, length_utf8_magic]

theorem foldlM_checkedAdd {a b c d : Nat} (h : start + a + b + c + d < 2 ^ 64) :
    [a, b, c, d].foldlM checkedAdd start = some n ↔ n = start + a + b + c + d := by
  have ha : start + a < 2 ^ 64 := by omega
  have hb : start + a + b < 2 ^ 64 := by omega
  have hc : start + a + b + c < 2 ^ 64 := by omega
  simp only [List.foldlM_cons, List.foldlM_nil, checkedAdd, ha, hb, hc, h, if_true, Option.bind_eq_bind,
    Option.bind_some, Option.pure_def, Option.some.injEq]
  exact eq_comm

/-- The word written behind `before` is read back. -/
theorem beNat_slice_word {before after : Bytes} {offset width value : Nat} (hoffset : before.length = offset)
    (hvalue : value < 256 ^ width) :
    beNat (slice (before ++ (beBytes width value ++ after)) offset (offset + width)) = value := by
  rw [slice_middle hoffset (by rw [length_beBytes]), beNat_beBytes_of_lt hvalue]

/-- What the reader finds in a written header. -/
theorem read_encodeHeader {lengths : LookupBundleV1Lengths} (h : lengths.Fit) (rest : Bytes) :
    let header := encodeHeader lengths ++ rest
    header.take 8 = utf8 "AGNBNDL1" ∧ readU16 header 8 = 1 ∧ readU16 header 10 = 0 ∧ readU32 header 12 = lengths.trust ∧
      readU32 header 16 = lengths.manifest ∧ readU32 header 20 = lengths.stdout ∧ readU32 header 24 = lengths.stderr ∧
      readU32 header 28 = 0 := by
  have hmagic := length_utf8_magic
  obtain ⟨-, -, htrust, hmanifest, hstdout, hstderr, -⟩ := h
  simp only [maxTrustBundleBytes, maxManifestBytes, maxBlobBytes] at htrust hmanifest hstdout hstderr
  -- The words stand behind 8, 10, 12, .. bytes; each `before` is what precedes the word.
  simp only [encodeHeader, readU16, readU32, List.append_assoc]
  refine ⟨List.take_left' hmagic, ?_, ?_, ?_, ?_, ?_, ?_, ?_⟩
  · exact beNat_slice_word hmagic (by decide)
  · rw [← List.append_assoc]
    exact beNat_slice_word (by simp [hmagic]) (by decide)
  · iterate 2 rw [← List.append_assoc]
    exact beNat_slice_word (by simp [hmagic]) (by omega)
  · iterate 3 rw [← List.append_assoc]
    exact beNat_slice_word (by simp [hmagic]) (by omega)
  · iterate 4 rw [← List.append_assoc]
    exact beNat_slice_word (by simp [hmagic]) (by omega)
  · iterate 5 rw [← List.append_assoc]
    exact beNat_slice_word (by simp [hmagic]) (by omega)
  · iterate 6 rw [← List.append_assoc]
    exact beNat_slice_word (by simp [hmagic]) (by decide)

/-- A body whose fixed words are right begins with the header of the lengths it declares. -/
theorem eq_encodeHeader (hlength : 32 ≤ body.length) (hmagic : body.take 8 = utf8 "AGNBNDL1")
    (hversion : readU16 body 8 = 1) (hflags : readU16 body 10 = 0) (hreserved : readU32 body 28 = 0) (total : Nat) :
    body = encodeHeader ⟨readU32 body 12, readU32 body 16, readU32 body 20, readU32 body 24, total⟩ ++
      body.drop 32 := by
  have hword : ∀ start width, start + width ≤ 32 →
      body.drop start = beBytes width (beNat (slice body start (start + width))) ++ body.drop (start + width) := by
    intro start width h
    rw [beBytes_slice (by omega) (by omega), slice_append_drop (by omega)]
  simp only [readU16, readU32] at hversion hflags hreserved ⊢
  calc body = body.take 8 ++ body.drop 8 := (List.take_append_drop 8 body).symm
    _ = _ := by
      rw [hmagic, hword 8 2 (by decide), hword 10 2 (by decide), hword 12 4 (by decide), hword 16 4 (by decide),
        hword 20 4 (by decide), hword 24 4 (by decide), hword 28 4 (by decide), hversion, hflags, hreserved]
      simp only [encodeHeader, List.append_assoc]

/-- The header check passes on exactly the written headers, and returns the length of the whole body. -/
theorem validateHeader_eq_ok :
    validateHeader body budget = .ok n ↔
      ∃ lengths, lengths.Fit ∧ lengths.total = n ∧ n ≤ budget.toNat ∧ ∃ rest, body = encodeHeader lengths ++ rest := by
  constructor
  · intro h
    unfold validateHeader at h
    simp only [bind_eq_ok, rejectIf_eq_ok, requireSome_eq_ok, pure_eq_ok, exists_unit, not_lt, not_not] at h
    simp only [teamLookupBundleHeaderBytes, teamLookupBundleMagic, teamLookupBundleSchemaVersion,
      length_utf8_magic] at h
    obtain ⟨hlength, hmagic, hversion, hflags, hreserved, htrust, hmanifest, htrust', hmanifest', hstdout, hstderr,
      total, htotal, hbudget, rfl⟩ := h
    have hbound : 32 + readU32 body 12 + readU32 body 16 + readU32 body 20 + readU32 body 24 < 2 ^ 64 := by
      simp only [maxTrustBundleBytes, maxManifestBytes, maxBlobBytes] at htrust' hmanifest' hstdout hstderr
      omega
    rw [foldlM_checkedAdd hbound] at htotal
    exact ⟨_, ⟨Nat.pos_of_ne_zero htrust, Nat.pos_of_ne_zero hmanifest, htrust', hmanifest', hstdout, hstderr,
      htotal⟩, rfl, hbudget, _, eq_encodeHeader hlength hmagic hversion hflags hreserved total⟩
  · rintro ⟨lengths, hfit, rfl, hbudget, rest, rfl⟩
    obtain ⟨hmagic, hversion, hflags, htrust, hmanifest, hstdout, hstderr, hreserved⟩ := read_encodeHeader hfit rest
    have hbound : 32 + lengths.trust + lengths.manifest + lengths.stdout + lengths.stderr < 2 ^ 64 := by
      have := budget.toNat_lt
      have := hfit.total_eq
      omega
    unfold validateHeader
    simp only [bind_eq_ok, rejectIf_eq_ok, requireSome_eq_ok, pure_eq_ok, exists_unit, not_lt, not_not]
    simp only [teamLookupBundleHeaderBytes, teamLookupBundleMagic, teamLookupBundleSchemaVersion, length_utf8_magic,
      htrust, hmanifest, hstdout, hstderr, foldlM_checkedAdd hbound]
    exact ⟨by simp, hmagic, hversion, hflags, hreserved, hfit.trust_pos.ne', hfit.manifest_pos.ne', hfit.trust_le,
      hfit.manifest_le, hfit.stdout_le, hfit.stderr_le, _, hfit.total_eq, hbudget, rfl⟩

/-- Only the header is looked at. -/
theorem validateHeader_take : validateHeader (body.take 32) budget = .ok n ↔ validateHeader body budget = .ok n := by
  simp only [validateHeader_eq_ok]
  constructor
  · rintro ⟨lengths, hfit, htotal, hbudget, rest, hrest⟩
    refine ⟨lengths, hfit, htotal, hbudget, rest ++ body.drop 32, ?_⟩
    rw [← List.append_assoc, ← hrest, List.take_append_drop]
  · rintro ⟨lengths, hfit, htotal, hbudget, rest, rfl⟩
    exact ⟨lengths, hfit, htotal, hbudget, [], by simp⟩

theorem length_of_validateHeader (h : validateHeader body budget = .ok n) :
    32 ≤ body.length ∧ 32 < n ∧ n ≤ budget.toNat := by
  obtain ⟨lengths, hfit, rfl, hbudget, rest, rfl⟩ := validateHeader_eq_ok.mp h
  have hpos := hfit.trust_pos
  have htotal := hfit.total_eq
  exact ⟨by simp, by omega, hbudget⟩

/-! ## What the validator knows -/

/-- What has arrived is within the budget and, once the header is there, within the length it declares. -/
def Viable (budget : UInt64) (seen : Bytes) : Prop :=
  seen.length ≤ budget.toNat ∧ (32 ≤ seen.length → ∃ n, validateHeader seen budget = .ok n ∧ seen.length ≤ n)

/-- Nothing is found late: what begins a viable body is viable. -/
theorem Viable.of_append {chunk : Bytes} (h : Viable budget (seen ++ chunk)) : Viable budget seen := by
  obtain ⟨hbudget, hheader⟩ := h
  rw [List.length_append] at hbudget hheader
  refine ⟨by omega, fun hlong => ?_⟩
  obtain ⟨n, hn, hle⟩ := hheader (by omega)
  rw [← validateHeader_take, List.take_append_of_le_length hlong, validateHeader_take] at hn
  exact ⟨n, hn, by omega⟩

/-- The validator after the bytes `seen`. -/
structure Tracks (budget : UInt64) (seen : Bytes) (v : TeamLookupBundleStreamValidator) : Prop where
  budget_eq : v.maxResponseBytes = budget
  received_eq : v.receivedBytes = seen.length
  headerBytes_eq : v.headerBytes = min 32 seen.length
  header_eq : v.header.val.take v.headerBytes = seen.take 32
  expected_short : seen.length < 32 → v.expectedBytes = none
  expected_long : 32 ≤ seen.length → ∃ n, validateHeader seen budget = .ok n ∧ v.expectedBytes = some n

theorem tracks_new (budget : UInt64) : Tracks budget [] (new budget) := by
  constructor <;> simp [new]

theorem take_copyInto {offset : Nat} {header : Octets n} {source : Bytes} {h : offset + source.length ≤ n} :
    (copyInto header offset source h).val.take (offset + source.length) = header.val.take offset ++ source := by
  have hoffset : offset ≤ header.val.length := by
    omega
  apply List.take_left'
  rw [List.length_append, List.length_take_of_le hoffset]

theorem checkedAdd_eq_some {a b : Nat} : checkedAdd a b = some n ↔ n = a + b ∧ n < 2 ^ 64 := by
  unfold checkedAdd
  split <;> simp <;> omega

/-- The length the validator expects after the bytes `seen`. -/
def Expects (budget : UInt64) (seen : Bytes) (expected : Option Nat) : Prop :=
  if 32 ≤ seen.length then ∃ n, validateHeader seen budget = .ok n ∧ expected = some n else expected = none

theorem viable_iff_expects : Viable budget seen ↔ seen.length ≤ budget.toNat ∧
    ∃ expected, Expects budget seen expected ∧ ¬ expected.any (· < seen.length) = true := by
  unfold Viable Expects
  by_cases hlong : 32 ≤ seen.length <;> simp [hlong]
  

section Push
variable {chunk : Bytes} {v' : TeamLookupBundleStreamValidator}

/-- The header bytes of the chunk are taken up, and a header they complete is checked. -/
theorem Tracks.fillHeader_short (h : Tracks budget seen v) (hshort : seen.length < 32) (chunk : Bytes) :
    ∃ header : Octets 32, header.val.take (min 32 (seen ++ chunk).length) = (seen ++ chunk).take 32 ∧
      v.fillHeader chunk =
        if min 32 (seen ++ chunk).length = 32 then do
          let expected ← validateHeader header.val budget
          return { v with header, headerBytes := min 32 (seen ++ chunk).length, expectedBytes := some expected }
        else return { v with header, headerBytes := min 32 (seen ++ chunk).length } := by
  have hbytes : v.headerBytes = seen.length := by rw [h.headerBytes_eq, Nat.min_eq_right (by omega)]
  have hopen : v.headerBytes < teamLookupBundleHeaderBytes := by
    simpa [hbytes, teamLookupBundleHeaderBytes] using hshort
  have hcopied : v.headerBytes + min (32 - v.headerBytes) chunk.length = min 32 (seen ++ chunk).length := by
    rw [hbytes, List.length_append]
    omega
  have htaken : v.header.val.take v.headerBytes = seen := by
    rw [h.header_eq, List.take_of_length_le (by omega)]
  rw [fillHeader, dif_pos hopen]
  simp only [hcopied, h.budget_eq, teamLookupBundleHeaderBytes]
  refine ⟨_, ?_, rfl⟩
  have hlength : min 32 (seen ++ chunk).length =
      v.headerBytes + (chunk.take (min (32 - v.headerBytes) chunk.length)).length := by
    rw [← hcopied, List.length_take]
    omega
  rw [hlength, take_copyInto, htaken, List.take_append, List.take_of_length_le (Nat.le_of_lt hshort), hbytes]
  rcases Nat.le_total (32 - seen.length) chunk.length with hle | hle
  · rw [Nat.min_eq_left hle]
  · rw [Nat.min_eq_right hle, List.take_length, List.take_of_length_le hle]

/-- The header step leaves the expected length of what has arrived. -/
theorem Tracks.fillHeader (h : Tracks budget seen v) (chunk : Bytes) :
    ∃ header : Octets 32, header.val.take (min 32 (seen ++ chunk).length) = (seen ++ chunk).take 32 ∧
      ∀ v', v.fillHeader chunk = .ok v' ↔ ∃ expected, Expects budget (seen ++ chunk) expected ∧
        { v with header, headerBytes := min 32 (seen ++ chunk).length, expectedBytes := expected } = v' := by
  unfold Expects
  rcases Nat.lt_or_ge seen.length 32 with hshort | hlong
  · obtain ⟨header, htake, hstep⟩ := h.fillHeader_short hshort chunk
    refine ⟨header, htake, fun v' => ?_⟩
    rw [hstep]
    generalize seen ++ chunk = arrived at *
    split
    · next hfull =>
      rw [hfull, List.take_of_length_le (by rw [header.property])] at htake
      have hlong : 32 ≤ arrived.length := by omega
      simp [hlong, htake, validateHeader_take]
    · next hpart =>
      have hshort' : ¬ 32 ≤ arrived.length := by omega
      simp [hshort', pure_eq_ok, h.expected_short hshort]
  · obtain ⟨n, hn, hexpected⟩ := h.expected_long hlong
    have hfull : v.headerBytes = 32 := by rw [h.headerBytes_eq, Nat.min_eq_left hlong]
    have hlonger : 32 ≤ (seen ++ chunk).length := by simp; omega
    have hsame : validateHeader (seen ++ chunk) budget = .ok n := by
      rwa [← validateHeader_take, List.take_append_of_le_length hlong, validateHeader_take]
    have hheader := h.header_eq
    rw [hfull] at hheader
    refine ⟨v.header, ?_, fun v' => ?_⟩
    · rw [Nat.min_eq_left hlonger, hheader, List.take_append_of_le_length hlong]
    · rw [TeamLookupBundleStreamValidator.fillHeader, dif_neg (by simp [hfull, teamLookupBundleHeaderBytes])]
      simp only [if_pos hlonger, hsame, Nat.min_eq_left hlonger]
      simp [← hexpected, ← hfull, pure_eq_ok]

theorem Tracks.push (h : Tracks budget seen v) :
    (Viable budget (seen ++ chunk) → ∃ v', v.push chunk = .ok v') ∧
      ∀ v', v.push chunk = .ok v' → Viable budget (seen ++ chunk) ∧ Tracks budget (seen ++ chunk) v' := by
  obtain ⟨header, htake, hfill⟩ := h.fillHeader chunk
  unfold TeamLookupBundleStreamValidator.push
  simp only [bind_eq_ok, requireSome_eq_ok, rejectIf_eq_ok, exists_unit, pure_eq_ok, h.budget_eq, h.received_eq,
    checkedAdd_eq_some, ← List.length_append, hfill, viable_iff_expects]
  constructor
  · rintro ⟨hbudget, expected, hexpects, htrailing⟩
    exact ⟨_, _, ⟨rfl, hbudget.trans_lt budget.toNat_lt⟩, Nat.not_lt_of_le hbudget, _, ⟨expected, hexpects, rfl⟩,
      htrailing, rfl⟩
  · rintro _ ⟨_, ⟨rfl, -⟩, hbudget, _, ⟨expected, hexpects, rfl⟩, htrailing, rfl⟩
    refine ⟨⟨Nat.le_of_not_lt hbudget, expected, hexpects, htrailing⟩, rfl, rfl, rfl, htake, ?_, ?_⟩
    · exact fun hshort => (if_neg (Nat.not_le_of_lt hshort)).mp hexpects
    · exact fun hlong => (if_pos hlong).mp hexpects

end Push

/-! ## Whole transfers -/

/-- The run lemma: the chunks are accepted as long as what has arrived is viable. -/
theorem foldlM_push (h : Tracks budget seen v) (hviable : Viable budget seen) (chunks : List Bytes) :
    (Viable budget (seen ++ chunks.flatten) → ∃ v', chunks.foldlM push v = .ok v') ∧
      ∀ v', chunks.foldlM push v = .ok v' →
        Viable budget (seen ++ chunks.flatten) ∧ Tracks budget (seen ++ chunks.flatten) v' := by
  induction chunks generalizing seen v with
  | nil =>
    simp only [List.flatten_nil, List.append_nil, List.foldlM_nil, pure_eq_ok]
    exact ⟨fun _ => ⟨v, rfl⟩, fun v' hv => hv ▸ ⟨hviable, h⟩⟩
  | cons chunk chunks ih =>
    simp only [List.flatten_cons, List.foldlM_cons, bind_eq_ok, ← List.append_assoc]
    constructor
    · intro hall
      obtain ⟨v₁, hv₁⟩ := h.push.1 hall.of_append
      obtain ⟨hviable₁, h₁⟩ := h.push.2 v₁ hv₁
      obtain ⟨v', hv'⟩ := (ih h₁ hviable₁).1 hall
      exact ⟨v', v₁, hv₁, hv'⟩
    · rintro v' ⟨v₁, hv₁, hv'⟩
      obtain ⟨hviable₁, h₁⟩ := h.push.2 v₁ hv₁
      exact (ih h₁ hviable₁).2 v' hv'

theorem viable_nil (budget : UInt64) : Viable budget [] := ⟨Nat.zero_le _, fun h => absurd h (by decide)⟩

theorem pushAll_tracks (h : pushAll budget chunks = .ok v) :
    Viable budget chunks.flatten ∧ Tracks budget chunks.flatten v :=
  (foldlM_push (tracks_new budget) (viable_nil budget) chunks).2 v h

theorem pushAll_iff : (∃ v, pushAll budget chunks = .ok v) ↔ Viable budget chunks.flatten :=
  ⟨fun ⟨_, h⟩ => (pushAll_tracks h).1, (foldlM_push (tracks_new budget) (viable_nil budget) chunks).1⟩

theorem Tracks.finish_iff (h : Tracks budget seen v) :
    v.finish = .ok () ↔ validateHeader seen budget = .ok seen.length := by
  unfold finish
  simp only [bind_eq_ok, requireSome_eq_ok, rejectIf_eq_ok, exists_unit, teamLookupBundleHeaderBytes, h.received_eq,
    h.headerBytes_eq]
  constructor
  · rintro ⟨hbytes, n, hn, hlow, hhigh⟩
    obtain ⟨n', hn', hexpected⟩ := h.expected_long (by omega)
    rw [hn] at hexpected
    cases hexpected
    rwa [show n = seen.length by omega] at hn'
  · intro hn
    obtain ⟨hlong, -, -⟩ := length_of_validateHeader hn
    obtain ⟨n', hn', hexpected⟩ := h.expected_long hlong
    rw [hn] at hn'
    cases hn'
    exact ⟨by omega, _, hexpected, by omega, by omega⟩

/-- A whole transfer passes when the header declares the length of what arrived. -/
theorem stream_iff :
    stream budget chunks = .ok () ↔ validateHeader chunks.flatten budget = .ok chunks.flatten.length := by
  unfold stream
  rw [bind_eq_ok]
  constructor
  · rintro ⟨v, hv, hfinish⟩
    exact (pushAll_tracks hv).2.finish_iff.mp hfinish
  · intro h
    obtain ⟨-, -, hbudget⟩ := length_of_validateHeader h
    obtain ⟨v, hv⟩ := pushAll_iff.mpr (show Viable budget chunks.flatten from ⟨hbudget, fun _ => ⟨_, h, le_refl _⟩⟩)
    exact ⟨v, hv, (pushAll_tracks hv).2.finish_iff.mpr h⟩

/-- The fields of a body whose header declares `lengths`. -/
def cutFields (lengths : LookupBundleV1Lengths) (body : Bytes) : UntrustedTeamLookupBundleV1 where
  initialTrustJson := slice body 32 (32 + lengths.trust)
  manifestJson := slice body (32 + lengths.trust) (32 + lengths.trust + lengths.manifest)
  stdoutCiphertext :=
    slice body (32 + lengths.trust + lengths.manifest) (32 + lengths.trust + lengths.manifest + lengths.stdout)
  stderrCiphertext := slice body (32 + lengths.trust + lengths.manifest + lengths.stdout) lengths.total

/-- The body of four fields, as one byte string. -/
def UntrustedTeamLookupBundleV1.joined (fields : UntrustedTeamLookupBundleV1) : Bytes :=
  fields.initialTrustJson ++ (fields.manifestJson ++ (fields.stdoutCiphertext ++ fields.stderrCiphertext))

def UntrustedTeamLookupBundleV1.lengths (fields : UntrustedTeamLookupBundleV1) : LookupBundleV1Lengths where
  trust := fields.initialTrustJson.length
  manifest := fields.manifestJson.length
  stdout := fields.stdoutCiphertext.length
  stderr := fields.stderrCiphertext.length
  total := 32 + fields.initialTrustJson.length + fields.manifestJson.length + fields.stdoutCiphertext.length +
    fields.stderrCiphertext.length

theorem length_written (fields : UntrustedTeamLookupBundleV1) :
    (encodeHeader fields.lengths ++ fields.joined).length = fields.lengths.total := by
  simp [UntrustedTeamLookupBundleV1.joined, UntrustedTeamLookupBundleV1.lengths, Nat.add_assoc]

/-- Any bytes of the declared length hold four fields. -/
theorem exists_fields {lengths : LookupBundleV1Lengths} {rest : Bytes} (hfit : lengths.Fit)
    (htotal : lengths.total = (encodeHeader lengths ++ rest).length) :
    ∃ fields : UntrustedTeamLookupBundleV1, fields.lengths = lengths ∧ fields.joined = rest := by
  have hsum := hfit.total_eq
  rw [List.length_append, length_encodeHeader] at htotal
  refine ⟨⟨rest.take lengths.trust, (rest.drop lengths.trust).take lengths.manifest,
    ((rest.drop lengths.trust).drop lengths.manifest).take lengths.stdout,
    ((rest.drop lengths.trust).drop lengths.manifest).drop lengths.stdout⟩, ?_, ?_⟩
  · cases lengths
    simp only [UntrustedTeamLookupBundleV1.lengths, List.length_take, List.length_drop, LookupBundleV1Lengths.mk.injEq]
      at hsum htotal ⊢
    omega
  · simp only [UntrustedTeamLookupBundleV1.joined, List.take_append_drop]

theorem cutFields_joined (fields : UntrustedTeamLookupBundleV1) {header : Bytes} (h : header.length = 32) :
    cutFields fields.lengths (header ++ fields.joined) = fields := by
  obtain ⟨trust, manifest, stdout, stderr⟩ := fields
  simp only [cutFields, UntrustedTeamLookupBundleV1.lengths, UntrustedTeamLookupBundleV1.joined,
    UntrustedTeamLookupBundleV1.mk.injEq]
  refine ⟨slice_middle h rfl, ?_, ?_, ?_⟩
  · rw [← List.append_assoc]
    exact slice_middle (by simp [h]) rfl
  · rw [← List.append_assoc, ← List.append_assoc]
    exact slice_middle (by simp [h, Nat.add_assoc]) rfl
  · rw [← List.append_assoc, ← List.append_assoc, ← List.append_assoc]
    conv_lhs => rw [← List.append_nil stderr]
    exact slice_middle (by simp [h, Nat.add_assoc]) (by simp)

theorem whole_iff : (∃ v, (new budget).push body = .ok v ∧ v.finish = .ok ()) ↔
    validateHeader body budget = .ok body.length := by
  simpa [stream, pushAll] using (stream_iff : stream budget [body] = .ok () ↔ _)

theorem parse_written (hfit : fields.lengths.Fit) (hbudget : fields.lengths.total ≤ budget.toNat) :
    parseTeamLookupBundleV1 (encodeHeader fields.lengths ++ fields.joined) budget = .ok fields := by
  have hn := validateHeader_eq_ok.mpr ⟨_, hfit, rfl, hbudget, fields.joined, rfl⟩
  obtain ⟨v, hpush, hfinish⟩ := whole_iff.mpr ((length_written fields).symm ▸ hn)
  obtain ⟨-, -, -, htrust, hmanifest, hstdout, -, -⟩ := read_encodeHeader hfit fields.joined
  rw [parseTeamLookupBundleV1, hpush, ok_bind, hfinish, ok_bind, hn, ok_bind, htrust, hmanifest, hstdout]
  exact congrArg Except.ok (cutFields_joined fields (length_encodeHeader _))

/-- The parser accepts exactly the header of four fields within the limits, followed by those fields. -/
theorem parse_eq_ok :
    parseTeamLookupBundleV1 body budget = .ok fields ↔ fields.lengths.Fit ∧
      body = encodeHeader fields.lengths ++ fields.joined ∧ fields.lengths.total ≤ budget.toNat := by
  constructor
  · intro h
    have hparse := h
    simp only [parseTeamLookupBundleV1, bind_eq_ok, exists_unit] at hparse
    obtain ⟨v, hpush, hfinish, -⟩ := hparse
    obtain ⟨lengths, hfit, htotal, hbudget, rest, rfl⟩ := validateHeader_eq_ok.mp (whole_iff.mp ⟨v, hpush, hfinish⟩)
    obtain ⟨written, rfl, rfl⟩ := exists_fields hfit htotal
    obtain rfl : written = fields := Except.ok.inj ((parse_written hfit (htotal ▸ hbudget)).symm.trans h)
    exact ⟨hfit, rfl, htotal ▸ hbudget⟩
  · rintro ⟨hfit, rfl, hbudget⟩
    exact parse_written hfit hbudget

/-- Some fields are read when the header declares the length of the body. -/
theorem parses_iff : (∃ fields, parseTeamLookupBundleV1 body budget = .ok fields) ↔
    validateHeader body budget = .ok body.length := by
  rw [validateHeader_eq_ok]
  constructor
  · rintro ⟨fields, h⟩
    obtain ⟨hfit, rfl, hbudget⟩ := parse_eq_ok.mp h
    exact ⟨_, hfit, (length_written fields).symm, length_written fields ▸ hbudget, _, rfl⟩
  · rintro ⟨lengths, hfit, htotal, hbudget, rest, rfl⟩
    obtain ⟨fields, rfl, rfl⟩ := exists_fields hfit htotal
    exact ⟨fields, parse_written hfit (htotal ▸ hbudget)⟩

/-! ## The writer -/

/-- A source that delivers its declared length is copied, chunk by chunk, without the empty ones. -/
theorem pumpExactSource_eq_ok {expected observed : Nat} {field : SourceField} {written : List Bytes}
    (h : observed ≤ expected) :
    pumpExactSource expected field observed chunks = .ok written ↔
      observed + chunks.flatten.length = expected ∧ written = chunks.filter fun c => !c.isEmpty := by
  induction chunks generalizing observed written with
  | nil =>
    simp only [pumpExactSource, bind_eq_ok, rejectIf_eq_ok, exists_unit, pure_eq_ok, not_not, List.flatten_nil,
      List.length_nil, Nat.add_zero, List.filter_nil]
    rw [eq_comm (a := [])]
  | cons chunk chunks ih =>
    unfold pumpExactSource
    by_cases hempty : chunk = []
    · subst hempty
      simpa using ih h
    · have hpos : chunk.length ≠ 0 := by simpa using hempty
      have hkeep : (!chunk.isEmpty) = true := by simpa using hempty
      simp only [hpos, if_false, bind_eq_ok, rejectIf_eq_ok, exists_unit, pure_eq_ok, List.flatten_cons,
        List.length_append, List.filter_cons, hkeep, if_true]
      constructor
      · rintro ⟨hfits, rest, hrest, rfl⟩
        obtain ⟨hsum, rfl⟩ := (ih (by omega)).mp hrest
        exact ⟨by omega, rfl⟩
      · rintro ⟨hsum, rfl⟩
        exact ⟨by omega, _, (ih (by omega)).mpr ⟨by omega, rfl⟩, rfl⟩

/-- Parts whose sources are free and declare the lengths they deliver. -/
def exactParts (trust manifest : Bytes) (stdout stderr : List Bytes) : LookupBundleV1Parts where
  initialTrustJson := trust
  manifestJson := manifest
  stdoutCiphertext := ⟨stdout, false, stdout.flatten.length⟩
  stderrCiphertext := ⟨stderr, false, stderr.flatten.length⟩

section Writer
variable (trust manifest : Bytes) (stdout stderr : List Bytes)

/-- The four fields the parts stand for. -/
def deliveredFields : UntrustedTeamLookupBundleV1 := ⟨trust, manifest, stdout.flatten, stderr.flatten⟩

/-- The writer's limits are the reader's, and its total is within its own. -/
theorem validateLengths_exactParts {lengths : LookupBundleV1Lengths} :
    validateLengths (exactParts trust manifest stdout stderr) = .ok lengths ↔
      lengths = (deliveredFields trust manifest stdout stderr).lengths ∧ lengths.Fit ∧
        lengths.total ≤ lookupBundleV1MaxResponseBytes := by
  have hdeclared : ∀ (n m : Nat) (field : SourceField),
      requireDeclaredLength n field = .ok m ↔ n ≤ 2 ^ 53 - 1 ∧ m = n := by
    unfold requireDeclaredLength
    simp only [bind_eq_ok, rejectIf_eq_ok, exists_unit, pure_eq_ok]
    simp only [isSafeInteger, decide_eq_false_iff_not, Int.natAbs_natCast, Int.toNat_natCast, not_or, not_not]
    omega
  unfold validateLengths
  simp only [bind_eq_ok, rejectIf_eq_ok, exists_unit, pure_eq_ok]
  simp only [exactParts, hdeclared]
  simp only [isSafeInteger, decide_eq_false_iff_not, Int.natAbs_natCast, lookupBundleV1MaxTrustBytes,
    lookupBundleV1MaxManifestBytes, lookupBundleV1MaxCiphertextBytes, lookupBundleV1MaxResponseBytes, not_or, not_not,
    not_lt]
  constructor
  · rintro ⟨_, ⟨-, rfl⟩, _, ⟨-, rfl⟩, hempty, ⟨htrust, hmanifest, hstdout, hstderr⟩, ⟨-, hmax⟩, rfl⟩
    exact ⟨rfl, ⟨Nat.pos_of_ne_zero hempty.1, Nat.pos_of_ne_zero hempty.2, htrust, hmanifest, hstdout, hstderr, rfl⟩,
      hmax⟩
  · rintro ⟨rfl, hfit, hmax⟩
    obtain ⟨htrust, hmanifest, htrust', hmanifest', hstdout, hstderr, -⟩ := hfit
    simp only [UntrustedTeamLookupBundleV1.lengths, deliveredFields, maxTrustBundleBytes, maxManifestBytes,
      maxBlobBytes] at htrust hmanifest htrust' hmanifest' hstdout hstderr hmax ⊢
    exact ⟨_, ⟨by omega, rfl⟩, _, ⟨by omega, rfl⟩, ⟨by omega, by omega⟩, ⟨htrust', hmanifest', hstdout, hstderr⟩,
      ⟨by omega, hmax⟩, rfl⟩

/-- Accepted lengths are enough for the writer to finish, and it writes the header and the fields. -/
theorem encode_exactParts {lengths : LookupBundleV1Lengths}
    (h : validateLengths (exactParts trust manifest stdout stderr) = .ok lengths) :
    ∃ writes, encodeLookupBundleV1 (exactParts trust manifest stdout stderr) = .ok writes ∧
      writes.flatten = encodeHeader lengths ++ (deliveredFields trust manifest stdout stderr).joined := by
  obtain ⟨rfl, -, -⟩ := (validateLengths_exactParts trust manifest stdout stderr).mp h
  unfold encodeLookupBundleV1
  simp only [bind_eq_ok, rejectIf_eq_ok, exists_unit, pure_eq_ok, h, Except.ok.injEq, exists_eq_left',
    pumpExactSource_eq_ok (Nat.zero_le _)]
  refine ⟨_, ⟨Bool.false_ne_true, Bool.false_ne_true, _, ⟨Nat.zero_add _, rfl⟩, _, ⟨Nat.zero_add _, rfl⟩, rfl⟩, ?_⟩
  simp only [List.flatten_cons, List.flatten_append, List.flatten_filter_not_isEmpty, exactParts,
    UntrustedTeamLookupBundleV1.joined, deliveredFields]

end Writer

/-! ## The two sides together -/

/-- Bytes with a complete header can begin an accepted body exactly when they are viable. -/
theorem viable_iff_begins (h : 32 ≤ seen.length) :
    Viable budget seen ↔ ∃ rest fields, parseTeamLookupBundleV1 (seen ++ rest) budget = .ok fields := by
  simp only [parses_iff]
  constructor
  · rintro ⟨-, hheader⟩
    obtain ⟨n, hn, hle⟩ := hheader h
    obtain ⟨lengths, hfit, rfl, hbudget, rest, rfl⟩ := validateHeader_eq_ok.mp hn
    -- Any bytes will do for the fields that have not arrived.
    let missing := List.replicate (lengths.total - (encodeHeader lengths ++ rest).length) (0 : UInt8)
    have htotal : (encodeHeader lengths ++ rest ++ missing).length = lengths.total := by
      rw [List.length_append, List.length_replicate]
      omega
    exact ⟨missing, htotal ▸ validateHeader_eq_ok.mpr ⟨lengths, hfit, rfl, hbudget, _, List.append_assoc _ _ _⟩⟩
  · rintro ⟨rest, hwhole⟩
    obtain ⟨-, -, hbudget⟩ := length_of_validateHeader hwhole
    exact Viable.of_append ⟨hbudget, fun _ => ⟨_, hwhole, le_refl _⟩⟩

/-- The budget of a lookup: 40 MiB. -/
def maxLookupResponseBytes : UInt64 := 41943040

theorem parse_of_delivered {trust manifest : Bytes} {stdout stderr writes : List Bytes}
    {lengths : LookupBundleV1Lengths} (h : validateLengths (exactParts trust manifest stdout stderr) = .ok lengths)
    (hwrites : writes.flatten = encodeHeader lengths ++ (deliveredFields trust manifest stdout stderr).joined)
    (hbudget : writes.flatten.length ≤ budget.toNat) :
    parseTeamLookupBundleV1 writes.flatten budget = .ok (deliveredFields trust manifest stdout stderr) := by
  obtain ⟨rfl, hfit, -⟩ := (validateLengths_exactParts trust manifest stdout stderr).mp h
  exact parse_eq_ok.mpr ⟨hfit, hwrites, by rwa [← length_written, ← hwrites]⟩

theorem encode_of_parse {stdout stderr : List Bytes}
    (h : parseTeamLookupBundleV1 body maxLookupResponseBytes = .ok fields)
    (hstdout : stdout.flatten = fields.stdoutCiphertext) (hstderr : stderr.flatten = fields.stderrCiphertext) :
    ∃ writes, encodeLookupBundleV1 (exactParts fields.initialTrustJson fields.manifestJson stdout stderr) = .ok writes ∧
      writes.flatten = body := by
  obtain ⟨hfit, hbody, hbudget⟩ := parse_eq_ok.mp h
  have hfields : deliveredFields fields.initialTrustJson fields.manifestJson stdout stderr = fields := by
    rw [deliveredFields, hstdout, hstderr]
  have htotal : fields.lengths.total ≤ lookupBundleV1MaxResponseBytes := hbudget.trans_eq (by decide)
  have hvalid := (validateLengths_exactParts fields.initialTrustJson fields.manifestJson stdout stderr).mpr
    ⟨rfl, hfields ▸ hfit, hfields ▸ htotal⟩
  obtain ⟨writes, hwrites, hflatten⟩ := encode_exactParts _ _ _ _ hvalid
  refine ⟨writes, hwrites, ?_⟩
  rw [hflatten, hfields, hbody]

/-- What the writer emits is read back, for any chunking of its sources; what the reader accepts within 40 MiB the
writer emits; a transfer in any chunks passes exactly when the whole body parses; and the pushes up to a chunk pass
exactly when the budget holds and, if the header is complete, some accepted body begins with what has arrived. -/
theorem lookup_bundle_framing :
    (∀ trust manifest stdout stderr lengths, validateLengths (exactParts trust manifest stdout stderr) = .ok lengths →
      ∃ writes, encodeLookupBundleV1 (exactParts trust manifest stdout stderr) = .ok writes ∧
        writes.flatten = encodeHeader lengths ++ (trust ++ (manifest ++ (stdout.flatten ++ stderr.flatten))) ∧
        ∀ budget : UInt64, writes.flatten.length ≤ budget.toNat →
          parseTeamLookupBundleV1 writes.flatten budget = .ok ⟨trust, manifest, stdout.flatten, stderr.flatten⟩) ∧
    (∀ body fields stdout stderr, parseTeamLookupBundleV1 body maxLookupResponseBytes = .ok fields →
      stdout.flatten = fields.stdoutCiphertext → stderr.flatten = fields.stderrCiphertext →
      ∃ writes,
        encodeLookupBundleV1 (exactParts fields.initialTrustJson fields.manifestJson stdout stderr) = .ok writes ∧
        writes.flatten = body) ∧
    (∀ budget chunks, stream budget chunks = .ok () ↔
      ∃ fields, parseTeamLookupBundleV1 chunks.flatten budget = .ok fields) ∧
    ∀ budget chunks, (∃ v, pushAll budget chunks = .ok v) ↔
      chunks.flatten.length ≤ budget.toNat ∧ (32 ≤ chunks.flatten.length →
        ∃ rest fields, parseTeamLookupBundleV1 (chunks.flatten ++ rest) budget = .ok fields) := by
  refine ⟨?_, fun body fields stdout stderr h hstdout hstderr => encode_of_parse h hstdout hstderr, ?_, ?_⟩
  · intro trust manifest stdout stderr lengths h
    obtain ⟨writes, hwrites, hflatten⟩ := encode_exactParts trust manifest stdout stderr h
    exact ⟨writes, hwrites, hflatten, fun budget hbudget => parse_of_delivered h hflatten hbudget⟩
  · intro budget chunks
    rw [stream_iff, parses_iff]
  · intro budget chunks
    rw [pushAll_iff]
    constructor
    · intro h
      exact ⟨h.1, fun hlong => (viable_iff_begins hlong).mp h⟩
    · rintro ⟨hbudget, hbegins⟩
      exact ⟨hbudget, fun hlong => ((viable_iff_begins hlong).mpr (hbegins hlong)).2 hlong⟩

theorem lookup_bundle_framing_small :
    ∃ writes, encodeLookupBundleV1 (exactParts [1] [2] [[3], [], [4]] []) = .ok writes ∧
      parseTeamLookupBundleV1 writes.flatten maxLookupResponseBytes = .ok ⟨[1], [2], [3, 4], []⟩ := by
  have hvalid : validateLengths (exactParts [1] [2] [[3], [], [4]] []) = .ok ⟨1, 1, 2, 0, 36⟩ := by rfl
  obtain ⟨writes, hwrites, hflatten, hparse⟩ := lookup_bundle_framing.1 [1] [2] [[3], [], [4]] [] _ hvalid
  exact ⟨writes, hwrites, hparse _ (by rw [hflatten, List.length_append, length_encodeHeader]; decide)⟩

/-- A first byte that begins no accepted body passes in a chunk of its own; the header check comes with byte 32. -/
theorem wrong_magic_passes_first_push :
    (∀ rest fields, parseTeamLookupBundleV1 ([0] ++ rest) maxLookupResponseBytes ≠ .ok fields) ∧
      (∃ v, pushAll maxLookupResponseBytes [[0]] = .ok v) ∧
      stream maxLookupResponseBytes [[0], List.replicate 31 0] = .error .invalidMagic := by
  refine ⟨fun rest fields h => ?_, ⟨_, rfl⟩, rfl⟩
  obtain ⟨-, hbody, -⟩ := parse_eq_ok.mp h
  have hmagic : utf8 "AGNBNDL1" = 65 :: (utf8 "AGNBNDL1").tail := by decide +kernel
  rw [encodeHeader, hmagic] at hbody
  simp at hbody

end Again.Team
