import Again.Policy.Admission

/-!
# Access plans are complete

The policy scans the words of a command in up to three loops. Here the same
words are read the way the utility itself reads them: options with their values
up to the first operand or `--`, then operands. For every admitted command the
two readings agree, so the plan has a scope for every file the utility opens.
-/

namespace Again.Policy

open Lib

variable {takesValue : String → Bool} {operands : List String} {scopes : List AccessScope} {next : Option String}
  {optionsDone : Bool} {program : String}

/-! ## How a utility reads its words -/

structure CommandOption where
  flag : String
  value : Option String
deriving DecidableEq

def isOptionWord (word : String) : Bool := startsWithByte word 45 && word != "-"

/-- Options up to the first operand or `--`, and the words after them. An option without the value it needs is an error. -/
def readOptions (takesValue : String → Bool) : List String → Option (List CommandOption × List String)
  | [] => some ([], [])
  | word :: rest =>
    if word = "--" then some ([], rest)
    else if isOptionWord word then
      if takesValue word then
        match rest with
        | [] => none
        | value :: rest => (readOptions takesValue rest).map fun read => (⟨word, some value⟩ :: read.1, read.2)
      else (readOptions takesValue rest).map fun read => (⟨word, none⟩ :: read.1, read.2)
    else some ([], word :: rest)

/-- The admitted options that stand alone, a value after `=` or a digit string included. -/
def Utility.alone : Utility → String → Bool
  | .cat, _ => false
  | .head, flag => safeFileFlag .headTail flag || attachedCount flag
  | .tail, flag => safeFileFlag .headTail flag || attachedCount flag
  | .wc, flag => safeWcFlag flag
  | .ls, flag => safeLsFlag flag
  | .pwd, _ => false
  | .rg, flag => safeSearchFlag flag true
  | .grep, flag => safeSearchFlag flag false
where
  attachedCount (flag : String) : Bool :=
    (utf8 "--lines=").isPrefixOf (utf8 flag) || (utf8 "--bytes=").isPrefixOf (utf8 flag) || shortCount flag

/-- The admitted options whose value is the next word. -/
def Utility.valued : Utility → String → Bool
  | .head, flag => takesCount flag
  | .tail, flag => takesCount flag
  | _, _ => false

/-- Which options of a utility take the next word. Of its other options nothing is assumed. -/
structure Grammar (utility : Utility) where
  takesValue : String → Bool
  valued : ∀ flag, utility.valued flag = true → takesValue flag = true
  alone : ∀ flag, utility.alone flag = true → takesValue flag = false

/-- The grammar with no other options that take a value. -/
def Utility.grammar (utility : Utility) : Grammar utility where
  takesValue := utility.valued
  valued _ h := h
  alone flag halone := by
    have hcount : takesCount flag = true → (Utility.head.alone flag) = false := by
      intro hmem
      simp only [takesCount, List.contains_iff_mem, List.mem_cons, List.not_mem_nil, or_false] at hmem
      rcases hmem with rfl | rfl | rfl | rfl <;> decide
    have hnot : Utility.head.alone flag = true → takesCount flag = false := fun halone =>
      Bool.eq_false_iff.mpr fun hmem => by simp [hcount hmem] at halone
    cases utility with
    | head | tail => exact hnot halone
    | _ => rfl

/-- An option of the admitted set, with a value exactly if it takes one. -/
def Admitted (utility : Utility) (option : CommandOption) : Prop :=
  match option.value with
  | none => utility.alone option.flag = true
  | some value => utility.valued option.flag = true ∧ value ≠ "" ∧ startsWithByte value 45 = false

/-! ## Scopes -/

section Calls
variable (calls : PolicyCalls) (context : PolicyContext)

/-- The working directory below the workspace. -/
def relativeCwd : Option (List Component) := do
  let workspace ← normalizeExistingOrAbsolute calls context.workspace
  let cwd ← normalizeExistingOrAbsolute calls context.cwd
  stripComponents cwd workspace

/-- The scope of an operand: the working directory and the operand joined, without `..`, root or empty names. -/
def IsScope (kind : Bytes → AccessScope) (operand : String) (scope : AccessScope) : Prop :=
  ∃ base, relativeCwd calls context = some base ∧
    (∀ part ∈ base ++ components (utf8 operand), part ≠ .parentDir ∧ part ≠ .rootDir) ∧
    (∀ name ∈ namesOf (base ++ components (utf8 operand)), IsName name) ∧
    scope = kind (relativeText (namesOf (base ++ components (utf8 operand))))

/-- What an admitted command line says, read as its utility reads it. -/
def Complete (utility : Utility) (grammar : Grammar utility) (words : List String) (scopes : List AccessScope) : Prop :=
  match utility with
  | .pwd => words = ["-P"] ∧ scopes = [.identityOnly]
  | .ls => ∃ options operands, readOptions grammar.takesValue words = some (options, operands) ∧
      (∀ option ∈ options, Admitted .ls option) ∧
      List.Forall₂ (IsScope calls context .directoryListing) (if operands = [] then ["."] else operands) scopes ∧
      ⟨"--color=never", none⟩ ∈ options ∧
      ¬ ((∃ option ∈ options, includesDotAndDotdot option.flag = true) ∧
        ∃ option ∈ options, sortsByMetadata option.flag = true)
  | .rg => ∃ options pattern paths, readOptions grammar.takesValue words = some (options, pattern :: paths) ∧
      (∀ option ∈ options, Admitted .rg option) ∧ paths ≠ [] ∧
      List.Forall₂ (IsScope calls context .recursiveContentTree) paths scopes ∧
      ⟨"--no-ignore", none⟩ ∈ options ∧ ⟨"--sort=path", none⟩ ∈ options
  | .grep => ∃ options pattern paths, readOptions grammar.takesValue words = some (options, pattern :: paths) ∧
      (∀ option ∈ options, Admitted .grep option) ∧ paths ≠ [] ∧
      List.Forall₂ (IsScope calls context .contentPath) paths scopes
  | _ => ∃ options operands, readOptions grammar.takesValue words = some (options, operands) ∧
      (∀ option ∈ options, Admitted utility option) ∧ operands ≠ [] ∧
      List.Forall₂ (IsScope calls context .contentPath) operands scopes

variable {calls context}

theorem relativePart_eq_ok {part : Component} {name : Option Bytes} (h : relativePart part = .ok name) :
    part ≠ .parentDir ∧ part ≠ .rootDir ∧ namesOf [part] = name.toList := by
  cases part with
  | curDir | normal found => cases h; exact ⟨by simp, by simp, rfl⟩
  | parentDir | rootDir => cases h

theorem mapM_relativePart {parts : List Component} {names : List (Option Bytes)}
    (h : parts.mapM relativePart = .ok names) :
    (∀ part ∈ parts, part ≠ .parentDir ∧ part ≠ .rootDir) ∧ namesOf parts = names.reduceOption := by
  induction parts generalizing names with
  | nil =>
    simp only [List.mapM_nil, pure_eq_ok] at h
    subst h
    exact ⟨by simp, rfl⟩
  | cons part parts ih =>
    simp only [List.mapM_cons, bind_eq_ok, pure_eq_ok] at h
    obtain ⟨name, hname, names', hnames, rfl⟩ := h
    obtain ⟨hparent, hroot, hhead⟩ := relativePart_eq_ok hname
    obtain ⟨hrest, htail⟩ := ih hnames
    refine ⟨?_, ?_⟩
    · exact List.forall_mem_cons.mpr ⟨⟨hparent, hroot⟩, hrest⟩
    · have happend : namesOf (part :: parts) = namesOf [part] ++ namesOf parts :=
        List.filterMap_append (l := [part])
      rw [happend, hhead, htail]
      cases name <;> rfl

/-- The names of a path the policy has made absolute. -/
theorem isName_of_normalize {path : Bytes} {found : List Component}
    (h : normalizeExistingOrAbsolute calls path = some found) : ∀ name, .normal name ∈ found → IsName name := by
  intro name hname
  unfold normalizeExistingOrAbsolute at h
  split at h
  · split at h
    · next place hplace =>
      cases h
      rcases List.mem_cons.mp hname with hname | hname
      · cases hname
      · obtain ⟨found, hfound, heq⟩ := List.mem_map.mp hname
        cases heq
        exact calls.canonical hplace name hfound
    · cases h
      exact isName_of_components hname
  · cases h

theorem isName_of_relativeCwd {base : List Component} (h : relativeCwd calls context = some base) :
    ∀ name, .normal name ∈ base → IsName name := by
  simp only [relativeCwd, Option.bind_eq_bind, Option.bind_eq_some_iff] at h
  obtain ⟨workspace, -, cwd, hcwd, hstrip⟩ := h
  intro name hname
  unfold stripComponents at hstrip
  split at hstrip
  · cases hstrip
    exact isName_of_normalize hcwd name (List.mem_of_mem_drop hname)
  · cases hstrip

theorem isScope_of_workspaceRelativePath {kind : Bytes → AccessScope} {operand : String} {path : Bytes}
    (h : workspaceRelativePath calls operand context = .ok path) :
    IsScope calls context kind operand (kind path) := by
  simp only [workspaceRelativePath, bind_eq_ok, exists_unit, requireSome_eq_ok, pure_eq_ok] at h
  obtain ⟨-, workspace, hworkspace, cwd, hcwd, base, hbase, names, hnames, rfl⟩ := h
  have hrelative : relativeCwd calls context = some base := by simp [relativeCwd, hworkspace, hcwd, hbase]
  obtain ⟨hparts, hnamesOf⟩ := mapM_relativePart hnames
  refine ⟨base, hrelative, hparts, ?_, by rw [hnamesOf]⟩
  intro name hname
  rcases List.mem_append.mp (mem_namesOf.mp hname) with hname | hname
  · exact isName_of_relativeCwd hrelative name hname
  · exact isName_of_components hname

/-! ## File utilities -/

variable {words argv : List String} {utility : Utility} {plan : AccessPlan} {isRg : Bool}

/-- Behind `--` or the first operand every word is an operand. -/
theorem classifyFileWords_operands {options : FileOptions} {operands : Nat}
    (h : classifyFileWords calls program options context words true operands = .ok scopes) :
    List.Forall₂ (IsScope calls context (fileScope options)) words scopes := by
  induction words generalizing operands scopes with
  | nil =>
    cases h
    exact List.Forall₂.nil
  | cons item rest ih =>
    unfold classifyFileWords at h
    simp only [Bool.true_eq_false, false_and, and_false, if_false] at h
    split at h
    · cases h
    · simp only [bind_eq_ok, exists_unit, pure_eq_ok] at h
      obtain ⟨-, -, path, hpath, scopes', hrest, rfl⟩ := h
      exact List.Forall₂.cons (isScope_of_workspaceRelativePath hpath) (ih hrest)

/-- The option set a file utility is classified with. -/
def Utility.fileOptions : Utility → FileOptions
  | .head => .headTail
  | .tail => .headTail
  | .wc => .wc
  | .ls => .ls
  | _ => .none

theorem consumeSafeFileOption_one (hfile : utility ≠ .rg ∧ utility ≠ .grep) {flag : String}
    (h : consumeSafeFileOption utility.fileOptions flag next = .ok .one) : utility.alone flag = true := by
  unfold consumeSafeFileOption at h
  split_ifs at h with hsafe hcount hattached
  · cases utility with
    | cat => cases hsafe
    | head | tail => exact Bool.or_eq_true_iff.mpr (Or.inl hsafe)
    | wc | ls => exact hsafe
    | pwd => cases hsafe
    | rg => exact absurd rfl hfile.1
    | grep => exact absurd rfl hfile.2
  · split at h
    · cases h
    · split at h <;> cases h
  · cases utility with
    | head | tail => exact Bool.or_eq_true_iff.mpr (Or.inr hattached.2)
    | _ => cases hattached.1

theorem consumeSafeFileOption_two {flag : String} (h : consumeSafeFileOption utility.fileOptions flag next = .ok .two) :
    utility.valued flag = true ∧ ∃ value, next = some value ∧ value ≠ "" ∧ startsWithByte value 45 = false := by
  unfold consumeSafeFileOption at h
  split_ifs at h with hsafe hcount hattached
  · cases h
  · split at h
    · cases h
    · next value =>
      split at h
      · cases h
      · next hvalue =>
        simp only [Bool.or_eq_true, decide_eq_true_eq, not_or, Bool.not_eq_true] at hvalue
        refine ⟨?_, value, rfl, hvalue.2, hvalue.1⟩
        cases utility with
        | head | tail => exact hcount.2
        | _ => cases hcount.1
  · cases h

/-- The policy's reading of the words of a file utility is the utility's. -/
theorem classifyFileWords_reads (hfile : utility ≠ .rg ∧ utility ≠ .grep) (grammar : Grammar utility) :
    ∀ {words : List String} {scopes : List AccessScope},
      classifyFileWords calls program utility.fileOptions context words false 0 = .ok scopes →
      ∃ options operands, readOptions grammar.takesValue words = some (options, operands) ∧
        (∀ option ∈ options, Admitted utility option) ∧
        List.Forall₂ (IsScope calls context (fileScope utility.fileOptions)) operands scopes
  | [], scopes, h => by
    cases h
    exact ⟨[], [], rfl, by simp, List.Forall₂.nil⟩
  | item :: rest, scopes, h => by
    unfold classifyFileWords at h
    unfold readOptions
    by_cases hdashes : item = "--"
    · rw [if_pos ⟨rfl, hdashes⟩] at h
      rw [if_pos hdashes]
      exact ⟨[], rest, rfl, by simp, classifyFileWords_operands h⟩
    rw [if_neg (fun hdone => hdashes hdone.2)] at h
    rw [if_neg hdashes]
    by_cases hdash : item = "-"
    · rw [if_pos hdash] at h
      cases h
    rw [if_neg hdash] at h
    split at h
    · cases h
    by_cases hoption : startsWithByte item 45 = true
    · have hword : isOptionWord item = true := by simp [isOptionWord, hoption, hdash]
      rw [if_pos ⟨rfl, hoption⟩] at h
      rw [if_pos hword]
      split at h
      · cases h
      · next hone =>
        have halone := consumeSafeFileOption_one hfile hone
        obtain ⟨options, operands, hread, hadmitted, hscopes⟩ := classifyFileWords_reads hfile grammar h
        refine ⟨⟨item, none⟩ :: options, operands, ?_, ?_, hscopes⟩
        · rw [grammar.alone item halone, if_neg (by simp), hread]
          rfl
        · exact List.forall_mem_cons.mpr ⟨halone, hadmitted⟩
      · next value rest' htwo =>
        obtain ⟨hvalued, found, hfound, hne, hnotDash⟩ := consumeSafeFileOption_two htwo
        obtain rfl : value = found := Option.some.inj hfound
        obtain ⟨options, operands, hread, hadmitted, hscopes⟩ := classifyFileWords_reads hfile grammar h
        refine ⟨⟨item, some value⟩ :: options, operands, ?_, ?_, hscopes⟩
        · rw [grammar.valued item hvalued, if_pos rfl]
          simp only [hread]
          rfl
        · exact List.forall_mem_cons.mpr ⟨⟨hvalued, hne, hnotDash⟩, hadmitted⟩
      · cases h
    · rw [if_neg (fun hdone => hoption hdone.2)] at h
      have hword : isOptionWord item = false := by simp [isOptionWord, hoption]
      rw [hword, if_neg (by simp)]
      simp only [bind_eq_ok, exists_unit, pure_eq_ok] at h
      obtain ⟨-, -, path, hpath, scopes', hrest, rfl⟩ := h
      exact ⟨[], item :: rest, rfl, by simp,
        List.Forall₂.cons (isScope_of_workspaceRelativePath hpath) (classifyFileWords_operands hrest)⟩

variable {options : List CommandOption}

/-- Where no option takes a value, a word ends the options or is one. -/
theorem readOptions_cons {word : String} (hread : readOptions takesValue (word :: words) = some (options, operands))
    (halone : ∀ option ∈ options, option.value = none) :
    ((word = "--" ∨ startsWithByte word 45 = false ∨ word = "-") ∧ options = []) ∨
      (¬ (word = "--" ∨ startsWithByte word 45 = false ∨ word = "-") ∧ ∃ rest, options = ⟨word, none⟩ :: rest ∧
        readOptions takesValue words = some (rest, operands)) := by
  unfold readOptions at hread
  split_ifs at hread with hdashes hword hvalue
  · cases hread
    exact .inl ⟨.inl hdashes, rfl⟩
  · cases words with
    | nil => cases hread
    | cons value words =>
      obtain ⟨read, -, heq⟩ := Option.map_eq_some_iff.mp hread
      cases heq
      cases halone _ List.mem_cons_self
  · obtain ⟨⟨rest, _⟩, hrest, heq⟩ := Option.map_eq_some_iff.mp hread
    cases heq
    simp only [isOptionWord, Bool.and_eq_true, bne_iff_ne] at hword
    exact .inr ⟨by simp [hdashes, hword], rest, rfl, hrest⟩
  · cases hread
    simp only [isOptionWord, Bool.and_eq_true, bne_iff_ne, ne_eq, not_and_or, Bool.not_eq_true, not_not] at hword
    exact .inl ⟨.inr hword, rfl⟩

/-- The colour check of `ls` stops where the options do. -/
theorem color_mem_of_lsExplicitlyDisablesColor (hcolor : lsExplicitlyDisablesColor words = true)
    (hread : readOptions takesValue words = some (options, operands)) (halone : ∀ option ∈ options, option.value = none) :
    ⟨"--color=never", none⟩ ∈ options := by
  induction words generalizing options with
  | nil => cases hcolor
  | cons word words ih =>
    unfold lsExplicitlyDisablesColor at hcolor
    split_ifs at hcolor with hstop hnever
    all_goals obtain ⟨hends, -⟩ | ⟨-, rest, rfl, hrest⟩ := readOptions_cons hread halone
    · exact absurd hends hstop
    · exact hnever ▸ List.mem_cons_self
    · exact absurd hends hstop
    · exact List.mem_cons_of_mem _ (ih hcolor hrest fun option hoption => halone option (List.mem_cons_of_mem _ hoption))

/-- The option-mix check of `ls` sees the options the utility reads. -/
theorem lsOptionMix_eq (hread : readOptions takesValue words = some (options, operands))
    (halone : ∀ option ∈ options, option.value = none) (dots sorted : Bool) :
    lsOptionMix words dots sorted = (dots || options.any fun option => includesDotAndDotdot option.flag,
      sorted || options.any fun option => sortsByMetadata option.flag) := by
  induction words generalizing options dots sorted with
  | nil =>
    cases hread
    simp [lsOptionMix]
  | cons word words ih =>
    unfold lsOptionMix
    obtain ⟨hstop, rfl⟩ | ⟨hgo, rest, rfl, hrest⟩ := readOptions_cons hread halone
    · rw [if_pos hstop]
      simp
    · rw [if_neg hgo, ih hrest fun option hoption => halone option (List.mem_cons_of_mem _ hoption)]
      simp [Bool.or_assoc]

theorem value_eq_none_of_ls {option : CommandOption} (h : Admitted .ls option) : option.value = none := by
  unfold Admitted at h
  split at h
  · assumption
  · cases h.1

theorem classifyFiles_complete (hfile : utility = .cat ∨ utility = .head ∨ utility = .tail ∨ utility = .wc)
    (grammar : Grammar utility) (h : classifyFiles calls argv utility.fileOptions true context = .ok plan) :
    Complete calls context utility grammar argv.tail plan.scopes := by
  have hscope : fileScope utility.fileOptions = .contentPath := by
    rcases hfile with rfl | rfl | rfl | rfl <;> rfl
  simp only [classifyFiles, bind_eq_ok, exists_unit] at h
  obtain ⟨-, scopes, hwords, h⟩ := h
  have hsearch : utility ≠ .rg ∧ utility ≠ .grep := by rcases hfile with rfl | rfl | rfl | rfl <;> simp
  obtain ⟨options, operands, hread, hadmitted, hscopes⟩ := classifyFileWords_reads hsearch grammar hwords
  split at h
  · cases h
  · next hne =>
    cases h
    have hoperands : operands ≠ [] := by
      rintro rfl
      exact hne (List.forall₂_nil_left_iff.mp hscopes)
    rw [hscope] at hscopes
    have hcomplete : ∃ options operands, readOptions grammar.takesValue argv.tail = some (options, operands) ∧
        (∀ option ∈ options, Admitted utility option) ∧ operands ≠ [] ∧
        List.Forall₂ (IsScope calls context .contentPath) operands scopes :=
      ⟨options, operands, hread, hadmitted, hoperands, hscopes⟩
    rcases hfile with rfl | rfl | rfl | rfl <;> exact hcomplete

theorem classifyLs_complete (grammar : Grammar .ls) (h : classifyFiles calls argv .ls false context = .ok plan) :
    Complete calls context .ls grammar argv.tail plan.scopes := by
  simp only [classifyFiles, bind_eq_ok, exists_unit, rejectIf_eq_ok, true_and, not_or, Bool.not_eq_false] at h
  obtain ⟨⟨hcolor, hmix⟩, scopes, hwords, h⟩ := h
  have hls : Utility.ls ≠ .rg ∧ Utility.ls ≠ .grep := by simp
  obtain ⟨options, operands, hread, hadmitted, hscopes⟩ := classifyFileWords_reads hls grammar hwords
  have halone : ∀ option ∈ options, option.value = none := fun option hoption =>
    value_eq_none_of_ls (hadmitted option hoption)
  refine ⟨options, operands, hread, hadmitted, ?_, color_mem_of_lsExplicitlyDisablesColor hcolor hread halone, ?_⟩
  · split at h
    · next hnil =>
      subst hnil
      have hoperands : operands = [] := List.forall₂_nil_right_iff.mp hscopes
      simp only [Bool.false_eq_true, if_false, if_true, bind_eq_ok, pure_eq_ok] at h
      obtain ⟨path, hpath, rfl⟩ := h
      rw [if_pos hoperands]
      exact List.Forall₂.cons (isScope_of_workspaceRelativePath hpath) List.Forall₂.nil
    · next hne =>
      cases h
      have hoperands : operands ≠ [] := by
        rintro rfl
        exact hne (List.forall₂_nil_left_iff.mp hscopes)
      rw [if_neg hoperands]
      exact hscopes
  · rintro ⟨⟨dots, hdots, hisDots⟩, sorted, hsorted, hisSorted⟩
    simp only [lsOptionMixSupported, lsOptionMix_eq hread halone, Bool.false_or, Bool.not_eq_true',
      Bool.and_eq_false_iff, List.any_eq_false] at hmix
    rcases hmix with hmix | hmix
    · exact hmix dots hdots hisDots
    · exact hmix sorted hsorted hisSorted

/-! ## Searches -/

/-- The utility that is classified as a search. -/
def searchUtility (isRg : Bool) : Utility := if isRg then .rg else .grep

/-- The option loop of a search reads what the utility reads. -/
theorem searchOptionWords_reads (grammar : Grammar (searchUtility isRg)) {noIgnore sortPath : Bool}
    {found : SearchWords} (h : searchOptionWords isRg words noIgnore sortPath = .ok found) :
    ∃ options, readOptions grammar.takesValue words = some (options, found.rest) ∧
      (∀ option ∈ options, Admitted (searchUtility isRg) option) ∧
      (found.noIgnore = true → noIgnore = true ∨ ⟨"--no-ignore", none⟩ ∈ options) ∧
      (found.sortPath = true → sortPath = true ∨ ⟨"--sort=path", none⟩ ∈ options) := by
  induction words generalizing noIgnore sortPath with
  | nil =>
    cases h
    exact ⟨[], rfl, by simp, Or.inl, Or.inl⟩
  | cons item rest ih =>
    unfold searchOptionWords at h
    unfold readOptions
    by_cases hdashes : item = "--"
    · rw [if_pos hdashes] at h
      cases h
      rw [if_pos hdashes]
      exact ⟨[], rfl, by simp, Or.inl, Or.inl⟩
    rw [if_neg hdashes] at h
    rw [if_neg hdashes]
    by_cases hdash : startsWithByte item 45 = true
    · rw [if_pos hdash] at h
      split at h
      · next hsafe =>
        have halone : (searchUtility isRg).alone item = true := by cases isRg <;> exact hsafe
        have hword : isOptionWord item = true := by
          have hne : item ≠ "-" := by
            rintro rfl
            revert hsafe
            cases isRg <;> decide
          simp [isOptionWord, hdash, hne]
        obtain ⟨options, hread, hadmitted, hignore, hsort⟩ := ih h
        refine ⟨⟨item, none⟩ :: options, ?_, ?_, ?_, ?_⟩
        · rw [if_pos hword, grammar.alone item halone, if_neg (by simp), hread]
          rfl
        · exact List.forall_mem_cons.mpr ⟨halone, hadmitted⟩
        · intro hfound
          rcases hignore hfound with hseen | hmem
          · rcases Bool.or_eq_true_iff.mp hseen with hseen | hitem
            · exact Or.inl hseen
            · exact Or.inr (beq_iff_eq.mp hitem ▸ List.mem_cons_self)
          · exact Or.inr (List.mem_cons_of_mem _ hmem)
        · intro hfound
          rcases hsort hfound with hseen | hmem
          · rcases Bool.or_eq_true_iff.mp hseen with hseen | hitem
            · exact Or.inl hseen
            · exact Or.inr (beq_iff_eq.mp hitem ▸ List.mem_cons_self)
          · exact Or.inr (List.mem_cons_of_mem _ hmem)
      · cases h
    · rw [if_neg hdash] at h
      cases h
      have hword : isOptionWord item = false := by simp [isOptionWord, hdash]
      rw [hword, if_neg (by simp)]
      exact ⟨[], rfl, by simp, Or.inl, Or.inl⟩

theorem classifySearchPath_scope {item : String} {scope : AccessScope}
    (h : classifySearchPath calls isRg optionsDone context item = .ok scope) :
    IsScope calls context (searchScope isRg) item scope := by
  simp only [classifySearchPath, bind_eq_ok, exists_unit, pure_eq_ok] at h
  obtain ⟨-, -, path, hpath, -, rfl⟩ := h
  exact isScope_of_workspaceRelativePath hpath

theorem mapM_classifySearchPath {paths : List String}
    (h : paths.mapM (classifySearchPath calls isRg optionsDone context) = .ok scopes) :
    List.Forall₂ (IsScope calls context (searchScope isRg)) paths scopes := by
  induction paths generalizing scopes with
  | nil =>
    simp only [List.mapM_nil, pure_eq_ok] at h
    subst h
    exact List.Forall₂.nil
  | cons item rest ih =>
    simp only [List.mapM_cons, bind_eq_ok, pure_eq_ok] at h
    obtain ⟨scope, hscope, scopes', hrest, rfl⟩ := h
    exact List.Forall₂.cons (classifySearchPath_scope hscope) (ih hrest)

theorem classifySearch_complete (isRg : Bool) (grammar : Grammar (searchUtility isRg))
    (h : classifySearch calls argv isRg context = .ok plan) :
    Complete calls context (searchUtility isRg) grammar argv.tail plan.scopes := by
  simp only [classifySearch, bind_eq_ok] at h
  obtain ⟨words, hwords, h⟩ := h
  obtain ⟨options, hread, hadmitted, hignore, hsort⟩ := searchOptionWords_reads grammar hwords
  split at h
  · cases h
  · next pattern paths hrest =>
    simp only [bind_eq_ok, exists_unit, rejectIf_eq_ok, pure_eq_ok] at h
    obtain ⟨-, scopes, hscopes, hpaths, hflags, rfl⟩ := h
    rw [hrest] at hread
    have hforall := mapM_classifySearchPath hscopes
    cases isRg with
    | false => exact ⟨options, pattern, paths, hread, hadmitted, hpaths, hforall⟩
    | true =>
      simp only [true_and, not_or, Bool.not_eq_false] at hflags
      have hnoIgnore := (hignore hflags.1).resolve_left (by simp)
      have hsortPath := (hsort hflags.2).resolve_left (by simp)
      exact ⟨options, pattern, paths, hread, hadmitted, hpaths, hforall, hnoIgnore, hsortPath⟩

theorem classifyUtility_complete (grammar : Grammar utility) (h : classifyUtility calls utility argv context = .ok plan) :
    Complete calls context utility grammar argv.tail plan.scopes := by
  cases utility with
  | cat => exact classifyFiles_complete (Or.inl rfl) grammar h
  | head => exact classifyFiles_complete (Or.inr (Or.inl rfl)) grammar h
  | tail => exact classifyFiles_complete (Or.inr (Or.inr (Or.inl rfl))) grammar h
  | wc => exact classifyFiles_complete (Or.inr (Or.inr (Or.inr rfl))) grammar h
  | ls => exact classifyLs_complete grammar h
  | pwd =>
    simp only [classifyUtility, classifyPwd] at h
    split at h
    · next hwords =>
      cases h
      exact ⟨hwords, rfl⟩
    · cases h
  | rg => exact classifySearch_complete true grammar h
  | grep => exact classifySearch_complete false grammar h

/-! ## Admitted commands -/

theorem classifyArgv_exactReuse {found : List String} (h : classifyArgv calls argv context = .exactReuse found plan) :
    found = argv ∧ ∃ program utility, programOf context (argv.headD "") = .ok program ∧
      utilityNamed program = some utility ∧ classifyUtility calls utility argv context = .ok plan := by
  simp only [classifyArgv] at h
  split at h
  · cases h
  split at h
  · cases h
  next program hprogram =>
  split_ifs at h
  split at h
  · cases h
  next utility hutility =>
  split at h
  · next plan' hplan =>
    cases h
    exact ⟨rfl, program, utility, hprogram, hutility, hplan⟩
  · cases h

theorem classify_exactReuse {raw : String} (h : classify calls raw context = .exactReuse argv plan) :
    calls.shellSplit raw = some argv ∧ ∃ program utility, programOf context (argv.headD "") = .ok program ∧
      utilityNamed program = some utility ∧ classifyUtility calls utility argv context = .ok plan := by
  unfold classify at h
  split_ifs at h
  split at h
  · cases h
  split at h
  · cases h
  · cases h
  · next hsplit =>
    obtain ⟨rfl, hplan⟩ := classifyArgv_exactReuse h
    exact ⟨hsplit, hplan⟩

/-- Every admitted command runs one of the utilities, and its plan is complete for whatever grammar the utility reads its
words with. -/
theorem classify_access_plan_complete {raw : String} {argv : List String} {plan : AccessPlan}
    (h : classify calls raw context = .exactReuse argv plan) :
    ∃ program utility, programOf context (argv.headD "") = .ok program ∧ utilityNamed program = some utility ∧
      ∀ grammar : Grammar utility, Complete calls context utility grammar argv.tail plan.scopes := by
  obtain ⟨-, program, utility, hprogram, hutility, hplan⟩ := classify_exactReuse h
  exact ⟨program, utility, hprogram, hutility, fun grammar => classifyUtility_complete grammar hplan⟩

end Calls

/-- Words between single spaces, and a file system that answers nothing. -/
def bareCalls : PolicyCalls where
  shellSplit raw := some (((utf8 raw).splitOn 32).filterMap fromUtf8?)
  canonicalize _ := none
  isDir _ := false
  isSymlink _ := false
  canonical h := by cases h

def bareContext : PolicyContext := ⟨utf8 "/w", utf8 "/w/src", false, false, false⟩

/-- `head -n 2 a.txt` in `/w/src`. -/
theorem head_access_plan_complete :
    classify bareCalls "head -n 2 a.txt" bareContext =
        .exactReuse ["head", "-n", "2", "a.txt"] ⟨[.contentPath (utf8 "src/a.txt")]⟩ ∧
      ∃ program utility, programOf bareContext "head" = .ok program ∧ utilityNamed program = some utility ∧
        Complete bareCalls bareContext utility utility.grammar ["-n", "2", "a.txt"]
          [.contentPath (utf8 "src/a.txt")] := by
  have hadmitted : classify bareCalls "head -n 2 a.txt" bareContext =
      .exactReuse ["head", "-n", "2", "a.txt"] ⟨[.contentPath (utf8 "src/a.txt")]⟩ := by decide
  obtain ⟨program, utility, hprogram, hutility, hcomplete⟩ := classify_access_plan_complete hadmitted
  exact ⟨hadmitted, program, utility, hprogram, hutility, hcomplete utility.grammar⟩

end Again.Policy
