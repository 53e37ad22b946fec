import Again.Privacy.Credentials

/-!
# JSON web tokens in a text

What `detect_credential_shape` finds of the tokens in a text. The JWT rule
looks at maximal runs of token bytes, and `+`, `/` and `=` are token bytes that
no JWT contains: a token next to one of them is hidden inside a longer run.
-/

namespace Again.Privacy

open Lib

variable {text : Bytes} {start stop : Nat} {b : UInt8}

/-! ## What a JWT is -/

structure IsSegment (segment : Bytes) : Prop where
  alphabet : segment.all isBase64Url = true
  length : 8 ≤ segment.length

/-- Three segments with dots between them, the first an encoded JSON object. -/
def IsJwt (token : Bytes) : Prop :=
  ∃ header payload signature, token = header ++ dot :: (payload ++ dot :: signature) ∧
    IsSegment header ∧ IsSegment payload ∧ IsSegment signature ∧ (utf8 "eyJ").isPrefixOf header = true

/-- No byte of the class stands next to `start..stop`. -/
def Delimited (p : UInt8 → Bool) (text : Bytes) (start stop : Nat) : Prop :=
  (∀ b, 0 < start → text[start - 1]? = some b → p b = false) ∧ ∀ b, text[stop]? = some b → p b = false

/-- A byte a JWT is spelled with. -/
def isJwtByte (b : UInt8) : Bool := isBase64Url b || b == dot

/-- `+`, `/` and `=`: bytes of a token, but not of a JWT. -/
def isJoint (b : UInt8) : Bool := b == 43 || b == 47 || b == 61

structure JwtAt (text : Bytes) (start stop : Nat) : Prop where
  ordered : start < stop
  bounded : stop ≤ text.length
  jwt : IsJwt (slice text start stop)
  delimited : Delimited isJwtByte text start stop

/-- A JWT next to none of `+`, `/` and `=`. -/
def StandsAlone (text : Bytes) : Prop := ∃ start stop, JwtAt text start stop ∧ Delimited isJoint text start stop

/-! ## The rule finds the tokens that stand alone -/

theorem isTokenByte_eq (b : UInt8) : isTokenByte b = (isJwtByte b || isJoint b) := by
  simp only [isTokenByte, isJwtByte, isBase64Url, isJoint, dot, Bool.or_assoc]

theorem delimited_isTokenByte :
    Delimited isTokenByte text start stop ↔ Delimited isJwtByte text start stop ∧ Delimited isJoint text start stop := by
  simp only [Delimited, isTokenByte_eq, Bool.or_eq_false_iff]
  constructor
  · intro h
    exact ⟨⟨fun b h0 hb => (h.1 b h0 hb).1, fun b hb => (h.2 b hb).1⟩,
      fun b h0 hb => (h.1 b h0 hb).2, fun b hb => (h.2 b hb).2⟩
  · intro h
    exact ⟨fun b h0 hb => ⟨h.1.1 b h0 hb, h.2.1 b h0 hb⟩, fun b hb => ⟨h.1.2 b hb, h.2.2 b hb⟩⟩

theorem IsSegment.dot_not_mem {segment : Bytes} (h : IsSegment segment) : dot ∉ segment := by
  intro hmem
  have hdot : isBase64Url dot = true := List.all_eq_true.mp h.alphabet dot hmem
  cases hdot

theorem splitOn_dots {header payload signature : Bytes} (hh : dot ∉ header) (hp : dot ∉ payload)
    (hs : dot ∉ signature) :
    (header ++ dot :: (payload ++ dot :: signature)).splitOn dot = [header, payload, signature] := by
  rw [List.splitOn_append_cons_self, List.splitOn_append_cons_self, List.splitOn_eq_singleton hh,
    List.splitOn_eq_singleton hp, List.splitOn_eq_singleton hs]
  rfl

theorem isJwtLike_iff {token : Bytes} : isJwtLike token = true ↔ IsJwt token := by
  constructor
  · intro h
    unfold isJwtLike at h
    split at h
    · next header payload signature hsplit =>
      simp only [Bool.and_eq_true, decide_eq_true_eq, List.all_cons, List.all_nil, Bool.and_true] at h
      obtain ⟨⟨⟨⟨hmark, hheader⟩, hpayload⟩, hsignature⟩, hall, hall', hall''⟩ := h
      refine ⟨header, payload, signature, ?_, ⟨hall, hheader⟩, ⟨hall', hpayload⟩, ⟨hall'', hsignature⟩, hmark⟩
      have hjoin : [dot].intercalate (token.splitOn dot) = token := List.intercalate_splitOn dot
      rw [hsplit] at hjoin
      simpa [List.intercalate] using hjoin.symm
    · cases h
  · rintro ⟨header, payload, signature, rfl, hheader, hpayload, hsignature, hmark⟩
    unfold isJwtLike
    rw [splitOn_dots hheader.dot_not_mem hpayload.dot_not_mem hsignature.dot_not_mem]
    simp [hmark, hheader.length, hpayload.length, hsignature.length, hheader.alphabet, hpayload.alphabet,
      hsignature.alphabet]

theorem IsSegment.isJwtByte {segment : Bytes} (h : IsSegment segment) (hb : b ∈ segment) : isJwtByte b = true := by
  simp [Privacy.isJwtByte, List.all_eq_true.mp h.alphabet b hb]

theorem IsJwt.isJwtByte {token : Bytes} (h : IsJwt token) (hb : b ∈ token) : isJwtByte b = true := by
  obtain ⟨header, payload, signature, rfl, hheader, hpayload, hsignature, -⟩ := h
  simp only [List.mem_append, List.mem_cons] at hb
  rcases hb with hb | rfl | hb | rfl | hb
  · exact hheader.isJwtByte hb
  · rfl
  · exact hpayload.isJwtByte hb
  · rfl
  · exact hsignature.isJwtByte hb

theorem mem_slice {i : Nat} (hlow : start ≤ i) (hhigh : i < stop) (hget : text[i]? = some b) :
    b ∈ slice text start stop := by
  have hslice : (slice text start stop)[i - start]? = some b := by
    rw [slice, List.getElem?_take_of_lt (by omega), List.getElem?_drop, Nat.add_sub_cancel' hlow, hget]
  exact List.mem_of_getElem? hslice

/-- The run of token bytes around a JWT is the JWT itself exactly when no joint touches it. -/
theorem JwtAt.isRun_iff (h : JwtAt text start stop) :
    IsRun isTokenByte text start stop ↔ Delimited isJoint text start stop := by
  constructor
  · intro hrun
    exact (delimited_isTokenByte.mp ⟨hrun.before, hrun.after⟩).2
  · intro hjoint
    obtain ⟨hbefore, hafter⟩ := delimited_isTokenByte.mpr ⟨h.delimited, hjoint⟩
    refine ⟨h.ordered, h.bounded, fun i b hlow hhigh hget => ?_, hbefore, hafter⟩
    rw [isTokenByte_eq, h.jwt.isJwtByte (mem_slice hlow hhigh hget), Bool.true_or]

theorem containsJwtLike_iff (text : Bytes) : containsJwtLike text = true ↔ StandsAlone text := by
  unfold containsJwtLike tokenRanges
  simp only [List.any_eq_true, Prod.exists, mem_runs, isJwtLike_iff]
  constructor
  · rintro ⟨start, stop, hrun, hjwt⟩
    obtain ⟨hdelimited, hjoint⟩ := delimited_isTokenByte.mp ⟨hrun.before, hrun.after⟩
    exact ⟨start, stop, ⟨hrun.nonempty, hrun.bounded, hjwt, hdelimited⟩, hjoint⟩
  · rintro ⟨start, stop, hat, hjoint⟩
    exact ⟨start, stop, hat.isRun_iff.mpr hjoint, hat.jwt⟩

/-! ## What is detected -/

/-- One of the six rules that do not look for a JWT matches. -/
def matchesOtherRule (text : Bytes) : Bool :=
  containsPemPrivateKey text || containsAwsAccessKey text || containsGithubToken text || containsBearerToken text ||
    containsSecretAssignment text || containsHighEntropyToken text

theorem detectCredentialShape_isSome (text : Bytes) :
    (detectCredentialShape text).isSome = (containsJwtLike text || matchesOtherRule text) := by
  unfold detectCredentialShape matchesOtherRule
  -- The rules are tried in order, and each that matches ends the search.
  cases containsPemPrivateKey text <;> cases containsAwsAccessKey text <;> cases containsGithubToken text <;>
    cases containsBearerToken text <;> cases containsJwtLike text <;> cases containsSecretAssignment text <;>
    cases containsHighEntropyToken text <;> rfl

/-- A text with JWTs is detected when one of them stands alone or another rule happens to match, and not otherwise. -/
theorem jwt_detected_iff (text : Bytes) :
    (∀ start stop, JwtAt text start stop → (detectCredentialShape text).isSome = true) ↔
      ∀ start stop, JwtAt text start stop → StandsAlone text ∨ matchesOtherRule text = true := by
  simp only [detectCredentialShape_isSome, Bool.or_eq_true, containsJwtLike_iff]

/-- `sid=` before a JWT of three segments of eight bytes. -/
def sessionCookie : Bytes := utf8 "sid=eyJhbGci.eyJzdWIi.c2lnbmF0"

theorem sessionCookie_jwtAt : JwtAt sessionCookie 4 30 where
  ordered := by decide
  bounded := by decide +kernel
  jwt := isJwtLike_iff.mp (by decide +kernel)
  delimited := by
    refine ⟨fun b _ hb => ?_, fun b hb => ?_⟩
    · cases hb
      rfl
    · cases hb

/-- The `=` joins the JWT to the name before it, and no rule matches the text. -/
theorem sessionCookie_undetected : JwtAt sessionCookie 4 30 ∧ detectCredentialShape sessionCookie = none :=
  ⟨sessionCookie_jwtAt, by decide +kernel⟩

end Again.Privacy
