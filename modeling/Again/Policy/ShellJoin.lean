import Again.Policy.AccessPlan

/-!
# A command joined and split again

`engine.rs`: a command given as a list of arguments is spelled as one shell
command for `classify`, which splits it into words. The words are the arguments,
so the comparison after it never fails.
-/

namespace Again.Policy

open Lib

/-! ## Words of a shell command -/

/-- How the next character is read. -/
inductive Quoting where
  | unquoted
  | escaped
  | single
  | double
  | doubleEscaped
  | comment

/-- The words read so far, and the word begun if one is. -/
structure Splitting where
  quoting : Quoting
  word : Option (List Char)
  words : List (List Char)

namespace Splitting

def push (s : Splitting) (quoting : Quoting) (cs : List Char) : Splitting :=
  { s with quoting, word := some (s.word.getD [] ++ cs) }

/-- POSIX quoting: a backslash before a newline joins two lines, and inside double quotes keeps only what it has to
escape there. -/
def step (s : Splitting) (c : Char) : Splitting :=
  match s.quoting with
  | .unquoted =>
    if c ∈ [' ', '\t', '\n'] then ⟨.unquoted, none, s.words ++ s.word.toList⟩
    else if c = '\'' then s.push .single []
    else if c = '"' then s.push .double []
    else if c = '\\' then { s with quoting := .escaped }
    else if c = '#' ∧ s.word = none then { s with quoting := .comment }
    else s.push .unquoted [c]
  | .escaped => if c = '\n' then { s with quoting := .unquoted } else s.push .unquoted [c]
  | .single => if c = '\'' then s.push .unquoted [] else s.push .single [c]
  | .double =>
    if c = '"' then s.push .unquoted []
    else if c = '\\' then { s with quoting := .doubleEscaped }
    else s.push .double [c]
  | .doubleEscaped =>
    if c = '\n' then { s with quoting := .double }
    else if c ∈ ['$', '\x60', '"', '\\'] then s.push .double [c]
    else s.push .double ['\\', c]
  | .comment => if c = '\n' then { s with quoting := .unquoted } else s

/-- A quotation that is left open is an error. -/
def finish (s : Splitting) : Option (List String) :=
  match s.quoting with
  | .unquoted | .comment => some ((s.words ++ s.word.toList).map String.ofList)
  | .escaped => some ((s.words ++ [s.word.getD [] ++ ['\\']]).map String.ofList)
  | .single | .double | .doubleEscaped => none

end Splitting

open Splitting

def posixSplit (raw : String) : Option (List String) := (raw.toList.foldl step ⟨.unquoted, none, []⟩).finish

/-! ## The join -/

inductive DirectRefusal where
  | commandRequired
  | notUtf8
  | notEligible (reason : ReasonCode)
  | argvMismatch

def isBareByte (b : UInt8) : Bool := isAsciiAlphanumeric b || (utf8 "_./,:=@%+-").contains b

/-- How one argument is spelled. -/
def shellQuote (argument : String) : List Char :=
  if argument = "" then ['\'', '\'']
  else if (utf8 argument).all isBareByte then argument.toList
  else '\'' :: argument.toList.flatMap (fun c => if c = '\'' then ['\'', '\\', '\'', '\''] else [c]) ++ ['\'']

def utf8Arguments (arguments : List Bytes) : Except DirectRefusal (List String) :=
  requireSome (arguments.mapM fromUtf8?) .notUtf8

def shellJoinForPolicy (arguments : List Bytes) : Except DirectRefusal String := do
  let arguments ← utf8Arguments arguments
  pure (String.ofList ([' '].intercalate (arguments.map shellQuote)))

/-- `direct_request`, up to the call it makes of the command. -/
def directRequest (calls : PolicyCalls) (command : List Bytes) (context : PolicyContext) :
    Except DirectRefusal (List String × AccessPlan) := do
  rejectIf (command = []) .commandRequired
  let rawCommand ← shellJoinForPolicy command
  let originalArgv ← utf8Arguments command
  match classify calls rawCommand context with
  | .exactReuse argv accessPlan => do
    rejectIf (argv ≠ originalArgv) .argvMismatch
    pure (argv, accessPlan)
  | .passThrough reason | .bypassNoStore reason => .error (.notEligible reason)

/-! ## What is joined is read back -/

variable {word cs : List Char} {words : List (List Char)}

/-- The characters that an argument without quotes must not have. -/
def shellSpecials : List Char := [' ', '\t', '\n', '\'', '"', '\\', '#']

theorem not_special {argument : String} (h : (utf8 argument).all isBareByte = true) :
    ∀ c ∈ argument.toList, c ∉ shellSpecials := by
  intro c hc hspecial
  have hbare : ∀ c ∈ shellSpecials, (String.utf8EncodeChar c).all isBareByte = false := by
    simp only [shellSpecials, List.forall_mem_cons]
    exact ⟨rfl, rfl, rfl, rfl, rfl, rfl, rfl, nofun⟩
  rw [utf8_eq_flatMap, List.all_flatMap, List.all_eq_true] at h
  exact absurd (h c hc) (by simp [hbare c hspecial])

theorem step_bare {c : Char} {begun : Option (List Char)} (h : c ∉ shellSpecials) :
    step ⟨.unquoted, begun, words⟩ c = ⟨.unquoted, some (begun.getD [] ++ [c]), words⟩ := by
  simp only [shellSpecials, List.mem_cons, List.not_mem_nil, or_false, not_or] at h
  simp [step, push, h]

theorem foldl_bare (h : ∀ c ∈ cs, c ∉ shellSpecials) :
    cs.foldl step ⟨.unquoted, some word, words⟩ = ⟨.unquoted, some (word ++ cs), words⟩ := by
  induction cs generalizing word with
  | nil => simp
  | cons c cs ih =>
    obtain ⟨hc, hcs⟩ := List.forall_mem_cons.mp h
    rw [List.foldl_cons, step_bare hc, ih hcs]
    simp

/-- Inside single quotes: a quote is closed, escaped and opened again. -/
theorem foldl_single :
    (cs.flatMap fun c => if c = '\'' then ['\'', '\\', '\'', '\''] else [c]).foldl step ⟨.single, some word, words⟩ =
      ⟨.single, some (word ++ cs), words⟩ := by
  induction cs generalizing word with
  | nil => simp
  | cons c cs ih =>
    rw [List.flatMap_cons, List.foldl_append]
    by_cases hc : c = '\''
    · rw [if_pos hc]
      simp only [List.foldl_cons, List.foldl_nil, step, push]
      simp [ih, hc]
    · simp [step, push, hc, ih]

theorem foldl_shellQuote (argument : String) :
    (shellQuote argument).foldl step ⟨.unquoted, none, words⟩ = ⟨.unquoted, some argument.toList, words⟩ := by
  unfold shellQuote
  split_ifs with hempty hbare
  · rw [hempty]
    rfl
  · have hspecial := not_special hbare
    cases hcs : argument.toList with
    | nil => exact absurd (String.toList_eq_nil_iff.mp hcs) hempty
    | cons c cs =>
      rw [hcs] at hspecial
      obtain ⟨hc, hrest⟩ := List.forall_mem_cons.mp hspecial
      rw [List.foldl_cons, step_bare hc, foldl_bare hrest]
      rfl
  · rw [List.cons_append, List.foldl_cons, List.foldl_append]
    have hopen : step ⟨.unquoted, none, words⟩ '\'' = ⟨.single, some [], words⟩ := by simp [step, push]
    rw [hopen, foldl_single]
    simp [step, push]

theorem foldl_join (arguments : List String) (words : List (List Char)) :
    (([' '].intercalate (arguments.map shellQuote)).foldl step ⟨.unquoted, none, words⟩).finish =
      some (words.map String.ofList ++ arguments) := by
  induction arguments generalizing words with
  | nil => simp [finish]
  | cons argument arguments ih =>
    cases arguments with
    | nil => simp [foldl_shellQuote, finish]
    | cons next arguments =>
      have hblank : step ⟨.unquoted, some argument.toList, words⟩ ' ' = ⟨.unquoted, none, words ++ [argument.toList]⟩ := by
        simp [step]
      rw [List.map_cons, List.map_cons, List.intercalate_cons_cons, List.append_assoc, List.foldl_append,
        foldl_shellQuote, List.singleton_append, List.foldl_cons, hblank]
      simpa using ih (words ++ [argument.toList])

theorem posixSplit_join {arguments : List Bytes} {argv : List String} {raw : String}
    (hargv : utf8Arguments arguments = .ok argv) (hraw : shellJoinForPolicy arguments = .ok raw) :
    posixSplit raw = some argv := by
  simp only [shellJoinForPolicy, hargv, ok_bind, pure_eq_ok] at hraw
  rw [← hraw, posixSplit, String.toList_ofList, foldl_join, List.map_nil, List.nil_append]

theorem utf8Arguments_utf8 (arguments : List String) : utf8Arguments (arguments.map utf8) = .ok arguments := by
  rw [utf8Arguments, requireSome_eq_ok]
  induction arguments with
  | nil => rfl
  | cons argument arguments ih => simp [ih]

section
variable {calls : PolicyCalls} (hsplit : ∀ raw, calls.shellSplit raw = posixSplit raw) {context : PolicyContext}
include hsplit

theorem argv_of_classify {arguments : List Bytes} {raw : String} {original argv : List String} {plan : AccessPlan}
    (hargv : utf8Arguments arguments = .ok original) (hraw : shellJoinForPolicy arguments = .ok raw)
    (h : classify calls raw context = .exactReuse argv plan) : argv = original := by
  have hread := (classify_exactReuse h).1
  rw [hsplit, posixSplit_join hargv hraw] at hread
  exact (Option.some.inj hread).symm

theorem directRequest_ne_argvMismatch (command : List Bytes) :
    directRequest calls command context ≠ .error .argvMismatch := by
  intro h
  by_cases hempty : command = []
  · simp [directRequest, rejectIf, hempty, bind, Except.bind] at h
  cases hargv : utf8Arguments command with
  | error e =>
    have he : e = .notUtf8 := by
      unfold utf8Arguments requireSome at hargv
      split at hargv <;> cases hargv
      rfl
    simp [directRequest, rejectIf, hempty, shellJoinForPolicy, hargv, he, bind, Except.bind] at h
  | ok original =>
    obtain ⟨raw, hraw⟩ : ∃ raw, shellJoinForPolicy command = .ok raw := by simp [shellJoinForPolicy, hargv]
    simp only [directRequest, rejectIf, hempty, if_false, hraw, hargv, ok_bind] at h
    split at h
    · next hclassify =>
      rw [if_neg (not_not.mpr (argv_of_classify hsplit hargv hraw hclassify))] at h
      cases h
    · cases h
    · cases h

end

/-- When the splitter follows POSIX, joined arguments are split into themselves, an admitted command has the
caller's arguments, and no direct request is refused for another `argv`. -/
theorem shell_join_inverted (calls : PolicyCalls) (hsplit : ∀ raw, calls.shellSplit raw = posixSplit raw) :
    (∀ arguments : List String, ∃ raw, shellJoinForPolicy (arguments.map utf8) = .ok raw ∧
      calls.shellSplit raw = some arguments) ∧
    (∀ (arguments : List String) raw context argv plan, shellJoinForPolicy (arguments.map utf8) = .ok raw →
      classify calls raw context = .exactReuse argv plan → argv = arguments) ∧
    ∀ command context, directRequest calls command context ≠ .error .argvMismatch := by
  refine ⟨fun arguments => ?_, fun arguments raw context argv plan hraw => ?_, fun command context => ?_⟩
  · have hargv := utf8Arguments_utf8 arguments
    obtain ⟨raw, hraw⟩ : ∃ raw, shellJoinForPolicy (arguments.map utf8) = .ok raw := by simp [shellJoinForPolicy, hargv]
    exact ⟨raw, hraw, (hsplit raw).trans (posixSplit_join hargv hraw)⟩
  · exact argv_of_classify hsplit (utf8Arguments_utf8 arguments) hraw
  · exact directRequest_ne_argvMismatch hsplit command

theorem shell_join_inverted_quotes : ∃ raw, shellJoinForPolicy (["cat", "it's a.txt", ""].map utf8) = .ok raw ∧
    posixSplit raw = some ["cat", "it's a.txt", ""] :=
  (shell_join_inverted { bareCalls with shellSplit := posixSplit } fun _ => rfl).1 _

end Again.Policy
