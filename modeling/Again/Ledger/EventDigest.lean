import Again.Ledger.CurrentVersions

/-!
# What an event's digest tells apart

The bytes hashed for an event are fields behind their lengths. The sources are
counted, but a source's dependencies are not, and an absent field is written as
an empty one. Of a source the bytes hold what names it; whom it was issued to
and until when it is fresh are compared with the caller when it is admitted.
-/

namespace Again.Ledger

open Lib Gateway ContextVerifiedObservationV1

/-- The arguments of `context_event_canonical_digest_v1`. -/
@[ext] structure EventArguments where
  identity : ContextLedgerIdentityV1
  fields : ContextEventFieldsV1
  payload : Bytes
  sources : List ContextVerifiedObservationV1
deriving DecidableEq

namespace ContextVerifiedObservationV1

/-- The fields of a source in the order they are hashed. -/
def hashed (s : ContextVerifiedObservationV1) : List String :=
  [s.source.val.resultId, s.source.val.resultDigest, s.source.val.locator, s.bindingDigest] ++
    s.dependencies.flatMap fun d => [d.keyDigest, d.valueDigest]

/-- How many dependencies a source has, and what is not hashed of it. -/
def shape (s : ContextVerifiedObservationV1) : Nat × ReasoningSourceReferenceV1 × Int × UInt64 :=
  (s.dependencies.length, { s.source.val with resultId := "", resultDigest := "", locator := "" },
    s.freshnessValidUntilMs, s.totalBytes)

theorem length_hashed (s : ContextVerifiedObservationV1) : s.hashed.length = s.dependencies.length * 2 + 4 := by
  simp [hashed, List.length_flatMap]

theorem hashed_injective : Function.Injective fun s : ContextVerifiedObservationV1 => (s.hashed, s.shape) := by
  have hdeps : Function.Injective fun deps : List GatewayDependencyV1 =>
      deps.flatMap fun d => [d.keyDigest, d.valueDigest] := by
    intro xs
    induction xs with
    | nil => rintro (_ | ⟨d, ys⟩) h <;> simp_all
    | cons d xs ih =>
      rintro (_ | ⟨e, ys⟩) h
      · simp at h
      · simp only [List.flatMap_cons, List.cons_append, List.nil_append, List.cons.injEq] at h
        obtain ⟨hkey, hvalue, htail⟩ := h
        rw [ih htail]
        cases d
        simp_all
  rintro ⟨⟨s, hs⟩, b, deps, f, n⟩ ⟨⟨s', hs'⟩, b', deps', f', n'⟩ h
  simp only [hashed, shape, List.cons_append, List.nil_append, Prod.mk.injEq, List.cons.injEq] at h
  obtain ⟨⟨hid, hdigest, hlocator, rfl, hd⟩, -, hs, rfl, rfl⟩ := h
  obtain rfl := hdeps hd
  cases s
  simp_all

/-- Sources of one shape are as many fields each, so their bytes break at the same places. -/
theorem sources_eq {xs ys : List ContextVerifiedObservationV1}
    (hx : ∀ s ∈ xs.flatMap (·.hashed), (utf8 s).length < 2 ^ 64)
    (hy : ∀ s ∈ ys.flatMap (·.hashed), (utf8 s).length < 2 ^ 64)
    (hshape : xs.map (·.shape) = ys.map (·.shape))
    (h : (xs.flatMap (·.hashed)).flatMap hashField = (ys.flatMap (·.hashed)).flatMap hashField) : xs = ys := by
  induction xs generalizing ys with
  | nil =>
    cases ys with
    | nil => rfl
    | cons => cases hshape
  | cons s xs ih =>
    cases ys with
    | nil => cases hshape
    | cons t ys =>
      obtain ⟨hone, hrest⟩ := List.cons.inj hshape
      simp only [List.flatMap_cons, List.flatMap_append, List.forall_mem_append] at hx hy h
      have hlength : s.hashed.length = t.hashed.length := by
        rw [length_hashed, length_hashed, (Prod.mk.inj hone).1]
      obtain ⟨hhashed, htail⟩ := selfDelimiting_putString.flatMap hlength hx.1 hy.1 h
      rw [hashed_injective (Prod.ext hhashed hone), ih hx.2 hy.2 hrest htail]

end ContextVerifiedObservationV1

namespace EventArguments

variable (x : EventArguments)

/-- The bytes hashed. -/
def bytes : Bytes := contextEventCanonicalBytes x.identity x.fields x.payload x.sources

/-- The names of the event, before its numbers. -/
def names : List String :=
  [x.identity.workspace.repositoryId, x.identity.workspace.workspaceId, x.identity.taskId,
    x.identity.authorizationScopeDigest, x.identity.agentId, x.identity.sessionId, x.identity.turnId,
    x.identity.connectionGeneration, x.fields.kind.code, x.fields.subjectId, x.fields.summary,
    x.fields.valueDigest.getD "", x.fields.resultId.getD "", x.fields.resultDigest.getD ""]

def numbers : List UInt64 :=
  [x.identity.compactionGeneration, x.identity.lifecycleGeneration, x.fields.subjectVersion,
    x.fields.totalBytes.getD 0, x.fields.durationMs.getD 0]

/-- The arguments fit into memory, so every length is a 64-bit number. -/
structure InMemory : Prop where
  names : ∀ s ∈ x.names, (utf8 s).length < 2 ^ 64
  payload : x.payload.length < 2 ^ 64
  sources : x.sources.length < 2 ^ 64
  hashed : ∀ s ∈ x.sources.flatMap (·.hashed), (utf8 s).length < 2 ^ 64

/-- Which optional fields there are, and the shapes of the sources. -/
def shape : List Bool × List (Nat × ReasoningSourceReferenceV1 × Int × UInt64) :=
  ([x.fields.valueDigest.isSome, x.fields.resultId.isSome, x.fields.resultDigest.isSome, x.fields.totalBytes.isSome,
    x.fields.durationMs.isSome], x.sources.map (·.shape))

theorem bytes_eq : x.bytes = utf8 "again.context-ledger.event.v1\x00" ++ (x.names.flatMap hashField ++
    (x.numbers.flatMap le64 ++ (putBytes x.payload ++ (le64 (UInt64.ofNat x.sources.length) ++
    (x.sources.flatMap (·.hashed)).flatMap hashField)))) := by
  simp only [bytes, contextEventCanonicalBytes, putList, nameBytes, names, numbers,
    hashed, List.flatMap_assoc, List.flatMap_append, List.flatMap_cons, List.flatMap_nil,
    List.append_nil, List.append_assoc]

end EventArguments

theorem ContextLedgerEventKindV1.code_injective : Function.Injective ContextLedgerEventKindV1.code := by
  intro a b h
  cases a <;> cases b <;> first | rfl | exact absurd h (by decide)

theorem option_eq {α : Type} {a b : Option α} {d : α} (hsome : a.isSome = b.isSome)
    (h : a.getD d = b.getD d) : a = b := by
  cases a <;> cases b <;> simp_all

/-- The names and numbers of an event are its identity and, when they are there, its fields. -/
theorem EventArguments.identity_fields_eq {x y : EventArguments} (hnames : x.names = y.names)
    (hnumbers : x.numbers = y.numbers) (hpresent : x.shape.1 = y.shape.1) :
    x.identity = y.identity ∧ x.fields = y.fields := by
  obtain ⟨⟨⟨⟨⟨⟨_, _⟩, _⟩, _⟩, _, _, _, _, _, _⟩, _⟩, ⟨_, _, _, _, _, _, _, _, _⟩, _, _⟩ := y
  simp only [names, numbers, shape, List.cons.injEq, and_true] at hnames hnumbers hpresent
  obtain ⟨rfl, rfl, rfl, rfl, rfl, rfl, rfl, rfl, hkind, rfl, rfl, hvalue, hid, hdigest⟩ := hnames
  obtain ⟨rfl, rfl, rfl, htotal, hduration⟩ := hnumbers
  obtain rfl := ContextLedgerEventKindV1.code_injective hkind
  obtain rfl := option_eq hpresent.1 hvalue
  obtain rfl := option_eq hpresent.2.1 hid
  obtain rfl := option_eq hpresent.2.2.1 hdigest
  obtain rfl := option_eq hpresent.2.2.2.1 htotal
  obtain rfl := option_eq hpresent.2.2.2.2 hduration
  exact ⟨rfl, rfl⟩

/-- What equal bytes say of two events: all but the shape is equal. -/
structure EventArguments.Agree (x y : EventArguments) : Prop where
  names : x.names = y.names
  numbers : x.numbers = y.numbers
  payload : x.payload = y.payload
  sources : x.sources.length = y.sources.length
  eq_iff : x = y ↔ x.shape = y.shape

theorem agree_of_bytes {x y : EventArguments} (hx : x.InMemory) (hy : y.InMemory) (h : x.bytes = y.bytes) :
    x.Agree y := by
  rw [x.bytes_eq, y.bytes_eq, List.append_cancel_left_eq] at h
  obtain ⟨hnames, h⟩ := selfDelimiting_putString.flatMap (by rfl) hx.names hy.names h
  obtain ⟨hnumbers, h⟩ := selfDelimiting_le64.flatMap (by rfl) (fun _ _ => trivial) (fun _ _ => trivial) h
  obtain ⟨hpayload, h⟩ := selfDelimiting_putBytes hx.payload hy.payload h
  obtain ⟨hlength, h⟩ := length_eq_of_le64 hx.sources hy.sources h
  refine ⟨hnames, hnumbers, hpayload, hlength, congrArg _, fun hshape => ?_⟩
  obtain ⟨hpresent, hsources⟩ := Prod.mk.inj hshape
  have hsources : x.sources = y.sources := sources_eq hx.hashed hy.hashed hsources h
  obtain ⟨hidentity, hfields⟩ := EventArguments.identity_fields_eq hnames hnumbers hpresent
  exact EventArguments.ext hidentity hfields hpayload hsources

/-- The read again, observed a second later. -/
def laterRead : ValidatedGatewayReadV1 where
  input := { sampleRead.input with freshness := ⟨zeroDigest, 2000, 62000⟩ }
  admitted := by decide +kernel

def laterSource : ContextVerifiedObservationV1 := { sampleSource with freshnessValidUntilMs := 62000 }

def sampleReference (source : ContextVerifiedObservationV1) : ContextLedgerEventInputV1 :=
  .resultReference ⟨⟨sampleResultId, sampleResultId, 3⟩, by decide +kernel⟩ 1 [source]

def sampleEvent (source : ContextVerifiedObservationV1) : EventArguments where
  identity := sampleLeader
  fields :=
    { kind := .resultReference, subjectId := sampleResultId, subjectVersion := 1
      summary := "verified result reference; retrieval authority is still required"
      valueDigest := some sampleResultId, resultId := some sampleResultId, resultDigest := some sampleResultId
      totalBytes := some 3 }
  payload := []
  sources := [source]

/-- The reference is appended, and then again from the later read under the same envelope. -/
def sampleReferenceRun : List Call × Tables :=
  record sampleExternals
    [(2020, .gateway (coordinate sumHash {} sampleRun)),
     (2021, .activate sampleLeader),
     (2022, .append sampleLeader (sampleDigest 7) (sampleReference sampleSource)),
     (2023, .append sampleLeader (sampleDigest 7) (sampleReference laterSource))]

theorem sampleEvent_inMemory : (sampleEvent sampleSource).InMemory := by
  constructor <;> decide +kernel

theorem laterEvent_inMemory : (sampleEvent laterSource).InMemory := by
  constructor <;> decide +kernel

theorem sampleReference_stored :
    (sampleReferenceRun.2.events.find? fun e => e.envelopeDigest = sampleDigest 7).isSome := by
  decide +kernel

end Again.Ledger
