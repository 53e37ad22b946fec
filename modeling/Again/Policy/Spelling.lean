import Again.Policy.AccessPlan

/-!
# Excluded paths and their spelling

The policy tests an operand against the excluded runtime paths as it is
spelled, and plans it joined to the working directory. A path can be split
between the two so that neither half is excluded, or so that only the
directory's half is: `Hides` says when, and the verdict is that of the planned
path exactly when the split does not hide it.
-/

namespace Again.Policy

open Again.Lib

variable {words argv : List String} {names : List Bytes} {plan : AccessPlan} {x y : Bytes} {options : FileOptions}
  {scope : AccessScope}

def gitName : Bytes := utf8 ".git"

/-- The names of an excluded runtime path. -/
def Excluded (names : List Bytes) : Prop :=
  utf8 ".again" ∈ names ∨ [gitName, utf8 "logs"].IsInfix names ∨
    ∃ part, utf8 ".lock" <:+ part ∧ [gitName, part].Sublist names

/-- What the working directory's names add to an operand's. -/
def Hides (base operand : List Bytes) : Prop :=
  Excluded base ∨ (base.getLast? = some gitName ∧ operand.head? = some (utf8 "logs")) ∨
    (gitName ∈ base ∧ ∃ part ∈ operand, utf8 ".lock" <:+ part)

/-! ## Names -/

theorem anyWindow_eq_true :
    anyWindow (fun first second => first == x && second == y) names = true ↔ [x, y].IsInfix names := by
  induction names with
  | nil => simp [anyWindow]
  | cons a names ih =>
    cases names with
    | nil => simp [anyWindow, List.infix_cons_iff]
    | cons b names =>
      have hstep : [x, y].IsInfix (a :: b :: names) ↔ [x, y] <+: a :: b :: names ∨ [x, y].IsInfix (b :: names) :=
        List.infix_cons_iff
      rw [anyWindow, Bool.or_eq_true, ih, hstep]
      simp [List.cons_prefix_cons, @eq_comm _ x, @eq_comm _ y]

theorem dropWhile_tail_any {p : Bytes → Bool} :
    (names.dropWhile (· != x)).tail.any p = true ↔ ∃ part, p part = true ∧ [x, part].Sublist names := by
  induction names with
  | nil => simp
  | cons a names ih =>
    by_cases ha : a = x
    · subst ha
      simp [List.cons_sublist_cons, and_comm]
    · rw [List.dropWhile_cons_of_pos (by simpa using ha), ih]
      have hskip (part : Bytes) : [x, part].Sublist (a :: names) ↔ [x, part].Sublist names := by
        simp [List.sublist_cons_iff, Ne.symm ha]
      simp only [hskip]

theorem isExcludedRuntimePath_iff {path : List Component} :
    isExcludedRuntimePath path = true ↔ Excluded (namesOf path) := by
  simp only [isExcludedRuntimePath, Bool.or_eq_true, anyWindow_eq_true, dropWhile_tail_any, List.contains_iff_mem,
    List.isSuffixOf_iff_suffix, or_assoc]
  rfl

theorem pair_infix_append {a b : List Bytes} :
    [x, y].IsInfix (a ++ b) ↔
      [x, y].IsInfix a ∨ [x, y].IsInfix b ∨ (a.getLast? = some x ∧ b.head? = some y) := by
  induction a with
  | nil => simp
  | cons c a ih =>
    have hstep : [x, y].IsInfix (c :: a) ↔ [x, y] <+: c :: a ∨ [x, y].IsInfix a := List.infix_cons_iff
    rw [List.cons_append, List.infix_cons_iff, ih, hstep]
    cases a with
    | nil =>
      cases b with
      | nil => simp
      | cons e b => simp [List.cons_prefix_cons, List.infix_cons_iff, @eq_comm _ x, @eq_comm _ y, or_comm]
    | cons d a => simp [List.cons_prefix_cons, or_assoc]

theorem pair_sublist_append {a b : List Bytes} :
    [x, y].Sublist (a ++ b) ↔ [x, y].Sublist a ∨ [x, y].Sublist b ∨ (x ∈ a ∧ y ∈ b) := by
  induction a with
  | nil => simp
  | cons c a ih =>
    simp only [List.cons_append, List.sublist_cons_iff, ih]
    simp
    tauto

/-- A joined path is excluded by its operand or by what the directory adds. -/
theorem excluded_append {base operand : List Bytes} :
    Excluded (base ++ operand) ↔ Excluded operand ∨ Hides base operand := by
  unfold Hides Excluded
  simp only [List.mem_append, pair_infix_append, pair_sublist_append, and_or_left, exists_or]
  have hsplit : (∃ part, utf8 ".lock" <:+ part ∧ gitName ∈ base ∧ part ∈ operand) ↔
      gitName ∈ base ∧ ∃ part ∈ operand, utf8 ".lock" <:+ part :=
    ⟨fun ⟨part, hlock, hgit, hmem⟩ => ⟨hgit, part, hmem, hlock⟩, fun ⟨hgit, part, hmem, hlock⟩ => ⟨part, hlock, hgit, hmem⟩⟩
  simp only [hsplit, or_assoc, or_comm, or_left_comm]

/-! ## Operands -/

section Calls
variable {calls : PolicyCalls} {context : PolicyContext} {base : List Component} {operand : String}

/-- The operand reaches the exclusion check, and its path stays inside the workspace. -/
structure Inside (calls : PolicyCalls) (context : PolicyContext) (base : List Component) (operand : String) : Prop where
  cwd : relativeCwd calls context = some base
  nonempty : operand ≠ ""
  named : operand ≠ "-"
  relative : isAbsolute (utf8 operand) = false
  below : ∀ part ∈ base ++ components (utf8 operand), part ≠ .parentDir ∧ part ≠ .rootDir

/-- The path of `workspace_relative_path`. -/
def plannedPath (base : List Component) (operand : String) : Bytes :=
  relativeText (namesOf base ++ namesOf (components (utf8 operand)))

def PathExcluded (path : Bytes) : Prop := Excluded (namesOf (components path))

/-- The operand is not excluded as it is spelled, and its path is. -/
def SplitHides (base : List Component) (operand : String) : Prop :=
  ¬ PathExcluded (utf8 operand) ∧ Hides (namesOf base) (namesOf (components (utf8 operand)))

theorem namesOf_relativeText (hnames : ∀ name ∈ names, IsName name) :
    namesOf (components (relativeText names)) = names := by
  by_cases hnil : names = []
  · subst hnil
    decide
  · rw [relativeText, if_neg hnil, components_joinNames hnames hnil]
    simp [namesOf]

/-- A planned path is excluded by its operand or because the split hides it. -/
theorem pathExcluded_plannedPath (h : relativeCwd calls context = some base) :
    PathExcluded (plannedPath base operand) ↔ PathExcluded (utf8 operand) ∨ SplitHides base operand := by
  have hnames : ∀ name ∈ namesOf base ++ namesOf (components (utf8 operand)), IsName name := by
    intro name hname
    rcases List.mem_append.1 hname with hname | hname
    · exact isName_of_relativeCwd h name (mem_namesOf.1 hname)
    · exact isName_of_components (mem_namesOf.1 hname)
  rw [PathExcluded, plannedPath, namesOf_relativeText hnames, excluded_append]
  exact ⟨fun hex => or_iff_not_imp_left.2 fun hno => ⟨hno, hex.resolve_left hno⟩, Or.imp_right And.right⟩

/-- What `workspace_relative_path` returns, when it returns. -/
theorem workspaceRelativePath_eq {path : Bytes} (hcwd : relativeCwd calls context = some base)
    (h : workspaceRelativePath calls operand context = .ok path) :
    path = plannedPath base operand ∧ ¬ PathExcluded (utf8 operand) := by
  have hscope : IsScope calls context .contentPath operand (.contentPath path) := isScope_of_workspaceRelativePath h
  obtain ⟨base', hcwd', -, -, hpath⟩ := hscope
  cases hcwd.symm.trans hcwd'
  cases hpath
  simp only [workspaceRelativePath, bind_eq_ok, exists_unit, validatePath, rejectIf_eq_ok,
    isExcludedRuntimePath_iff] at h
  obtain ⟨⟨-, -, -, -, hexcluded, -⟩, -⟩ := h
  exact ⟨by rw [plannedPath, namesOf, List.filterMap_append]; rfl, hexcluded⟩

/-- The policy refuses the operand as an excluded runtime path. -/
def RefusesExcluded (calls : PolicyCalls) (context : PolicyContext) (operand : String) : Prop :=
  validatePath calls operand context = .error .excludedRuntimePath

theorem refusesExcluded_iff (h : Inside calls context base operand) :
    RefusesExcluded calls context operand ↔ PathExcluded (utf8 operand) := by
  have hbelow : ¬ (.parentDir ∈ components (utf8 operand) ∨ .rootDir ∈ components (utf8 operand)) := by
    rintro (hmem | hmem)
    · exact (h.below _ (List.mem_append_right _ hmem)).1 rfl
    · exact (h.below _ (List.mem_append_right _ hmem)).2 rfl
  rw [PathExcluded, ← isExcludedRuntimePath_iff]
  unfold RefusesExcluded validatePath
  simp only [rejectIf, h.nonempty, h.named, h.relative, if_neg hbelow, if_false, ok_bind, Bool.false_eq_true]
  split_ifs with hexcluded
  · exact iff_of_true rfl hexcluded
  · -- the checks that are left refuse with another reason
    refine iff_of_false (fun herror => ?_) hexcluded
    split at herror
    · cases herror
    · cases hworkspace : normalizeExistingOrAbsolute calls context.workspace with
      | none => rw [hworkspace] at herror; cases herror
      | some workspace =>
        simp only [hworkspace, requireSome, ok_bind] at herror
        split_ifs at herror
        cases herror

/-! ## Plans -/

/-- The scope of a path of the workspace. -/
def AccessScope.path? : AccessScope → Option Bytes
  | .contentPath path | .recursiveContentTree path | .directoryListing path => some path
  | _ => none

/-- The scope is one word's, under its workspace-relative path. -/
def Plans (calls : PolicyCalls) (context : PolicyContext) (words : List String) (scope : AccessScope) : Prop :=
  ∀ path, scope.path? = some path → ∃ word ∈ words, workspaceRelativePath calls word context = .ok path

theorem Plans.mono {words' : List String} (h : Plans calls context words scope) (hsub : words ⊆ words') :
    Plans calls context words' scope := by
  intro path hpath
  obtain ⟨word, hword, hrelative⟩ := h path hpath
  exact ⟨word, hsub hword, hrelative⟩

theorem plans_of_path {word : String} {path : Bytes} (hword : word ∈ words)
    (hpath : workspaceRelativePath calls word context = .ok path) (hscope : scope.path? = some path) :
    Plans calls context words scope := by
  intro found hfound
  cases hscope.symm.trans hfound
  exact ⟨word, hword, hpath⟩

theorem classifyFileWords_plans {program : String} {optionsDone : Bool} {operands : Nat} {scopes : List AccessScope}
    (h : classifyFileWords calls program options context words optionsDone operands = .ok scopes) :
    ∀ scope ∈ scopes, Plans calls context words scope := by
  fun_induction classifyFileWords calls program options context words optionsDone operands generalizing scopes with
  | case1 => cases h; simp
  | case2 item rest _ _ _ ih => exact fun scope hscope => (ih h scope hscope).mono (List.subset_cons_self item rest)
  | case3 | case4 => cases h
  | case5 _ _ _ _ _ _ _ _ _ hconsume | case8 _ _ _ _ _ _ _ hconsume => rw [hconsume] at h; cases h
  | case6 item _ _ _ _ _ _ rest hconsume ih =>
    rw [hconsume] at h
    exact fun scope hscope => (ih h scope hscope).mono (List.subset_cons_self item rest)
  | case7 item _ _ _ _ _ _ value rest hconsume ih =>
    rw [hconsume] at h
    exact fun scope hscope => (ih h scope hscope).mono fun _ hw => List.mem_cons_of_mem _ (List.mem_cons_of_mem _ hw)
  | case9 item rest _ _ _ _ _ _ ih =>
    simp only [bind_eq_ok, exists_unit, pure_eq_ok] at h
    obtain ⟨-, -, path, hpath, scopes', hrest, rfl⟩ := h
    refine List.forall_mem_cons.2 ⟨plans_of_path (List.mem_cons_self ..) hpath (by cases options <;> rfl), ?_⟩
    exact fun scope hscope => (ih hrest scope hscope).mono (List.subset_cons_self item rest)

theorem classifyFiles_plans {requireFile : Bool} (h : classifyFiles calls argv options requireFile context = .ok plan) :
    ∀ scope ∈ plan.scopes, Plans calls context ("." :: argv.tail) scope := by
  simp only [classifyFiles, bind_eq_ok, exists_unit] at h
  obtain ⟨-, scopes, hwords, h⟩ := h
  split_ifs at h
  · simp only [bind_eq_ok, pure_eq_ok] at h
    obtain ⟨path, hpath, rfl⟩ := h
    refine List.forall_mem_singleton.2 ?_
    exact plans_of_path List.mem_cons_self hpath rfl
  · cases h; simp
  · cases h
    exact fun scope hscope => (classifyFileWords_plans hwords scope hscope).mono (List.subset_cons_self _ _)

theorem searchOptionWords_rest {isRg noIgnore sortPath : Bool} {found : SearchWords}
    (h : searchOptionWords isRg words noIgnore sortPath = .ok found) : found.rest ⊆ words := by
  fun_induction searchOptionWords isRg words noIgnore sortPath with
  | case1 => cases h; exact List.Subset.refl _
  | case2 | case5 => cases h; simp
  | case3 _ _ _ _ _ _ _ ih => exact List.subset_cons_of_subset _ (ih h)
  | case4 => cases h

theorem classifySearch_plans {isRg : Bool} (h : classifySearch calls argv isRg context = .ok plan) :
    ∀ scope ∈ plan.scopes, Plans calls context ("." :: argv.tail) scope := by
  simp only [classifySearch, bind_eq_ok] at h
  obtain ⟨words, hwords, h⟩ := h
  split at h
  · cases h
  · next pattern paths hrest =>
    simp only [bind_eq_ok, exists_unit, pure_eq_ok] at h
    obtain ⟨-, scopes, hscopes, -, -, rfl⟩ := h
    intro scope hscope
    obtain ⟨word, hword, hpath⟩ := (mem_of_mapM hscopes).1 hscope
    have hmem : word ∈ argv.tail := searchOptionWords_rest hwords (hrest ▸ List.mem_cons_of_mem _ hword)
    simp only [classifySearchPath, bind_eq_ok, exists_unit, pure_eq_ok] at hpath
    obtain ⟨-, -, path, hpath, -, rfl⟩ := hpath
    exact plans_of_path (List.mem_cons_of_mem _ hmem) hpath (by cases isRg <;> rfl)

theorem classify_plans {raw : String} (h : classify calls raw context = .exactReuse argv plan) :
    ∀ scope ∈ plan.scopes, Plans calls context ("." :: argv.tail) scope := by
  obtain ⟨-, -, utility, -, -, hplan⟩ := classify_exactReuse h
  cases utility with
  | cat | head | tail | wc | ls => exact classifyFiles_plans hplan
  | rg | grep => exact classifySearch_plans hplan
  | pwd =>
    simp only [classifyUtility, classifyPwd] at hplan
    split_ifs at hplan
    cases hplan
    refine List.forall_mem_singleton.2 fun found hfound => ?_
    cases hfound

/-- The verdict on an operand is that of its planned path exactly when the
split between directory and operand does not hide it; then any two spellings
of a path get the same verdict; and a plan's scope is excluded exactly when it
comes from a word whose path is hidden. -/
theorem exclusion_spelling (calls : PolicyCalls) :
    (∀ context base operand, Inside calls context base operand →
      ((RefusesExcluded calls context operand ↔ PathExcluded (plannedPath base operand)) ↔ ¬ SplitHides base operand)) ∧
    (∀ context base operand context' base' operand', Inside calls context base operand →
      Inside calls context' base' operand' → plannedPath base operand = plannedPath base' operand' →
      ¬ SplitHides base operand → ¬ SplitHides base' operand' →
      (RefusesExcluded calls context operand ↔ RefusesExcluded calls context' operand')) ∧
    ∀ context base raw argv plan, relativeCwd calls context = some base →
      classify calls raw context = .exactReuse argv plan →
      ∀ scope ∈ plan.scopes, ∀ path, scope.path? = some path →
        ∃ word ∈ "." :: argv.tail, path = plannedPath base word ∧ (PathExcluded path ↔ SplitHides base word) := by
  have hverdict (context base operand) (h : Inside calls context base operand) :
      (RefusesExcluded calls context operand ↔ PathExcluded (plannedPath base operand)) ↔ ¬ SplitHides base operand := by
    rw [refusesExcluded_iff h, pathExcluded_plannedPath h.cwd]
    exact ⟨fun hiff hhides => hhides.1 (hiff.2 (.inr hhides)), fun hno => ⟨.inl, fun hor => hor.resolve_right hno⟩⟩
  refine ⟨hverdict, ?_, ?_⟩
  · intro context base operand context' base' operand' h h' heq hno hno'
    rw [(hverdict _ _ _ h).2 hno, (hverdict _ _ _ h').2 hno', heq]
  · intro context base raw argv plan hcwd hplan scope hscope path hpath
    obtain ⟨word, hword, hrelative⟩ := classify_plans hplan scope hscope path hpath
    obtain ⟨rfl, hspelled⟩ := workspaceRelativePath_eq hcwd hrelative
    exact ⟨word, hword, rfl, by rw [pathExcluded_plannedPath hcwd, or_iff_right hspelled]⟩

end Calls

/-- Inside `.git`, a log is planned for reuse that is refused from the workspace. -/
theorem git_log_planned_from_inside :
    classify bareCalls "cat logs/HEAD" { bareContext with cwd := utf8 "/w/.git" } =
        .exactReuse ["cat", "logs/HEAD"] ⟨[.contentPath (utf8 ".git/logs/HEAD")]⟩ ∧
      classify bareCalls "cat .git/logs/HEAD" { bareContext with cwd := utf8 "/w" } =
        .bypassNoStore .excludedRuntimePath ∧
      isExcludedRuntimePath (components (utf8 ".git/logs/HEAD")) = true := by
  decide

/-- A log below `src/.git` is refused in `src`, as its path is. -/
theorem exclusion_spelling_src :
    RefusesExcluded bareCalls bareContext ".git/logs" ∧
      PathExcluded (plannedPath [.normal (utf8 "src")] ".git/logs") := by
  have hinside : Inside bareCalls bareContext [.normal (utf8 "src")] ".git/logs" :=
    ⟨by decide, by decide, by decide, by decide, by decide⟩
  have hspelled : PathExcluded (utf8 ".git/logs") := isExcludedRuntimePath_iff.1 (by decide)
  have hrefused : RefusesExcluded bareCalls bareContext ".git/logs" := (refusesExcluded_iff hinside).2 hspelled
  exact ⟨hrefused, (((exclusion_spelling bareCalls).1 _ _ _ hinside).2 fun hhides => hhides.1 hspelled).1 hrefused⟩

end Again.Policy
