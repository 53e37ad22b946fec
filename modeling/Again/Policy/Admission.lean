import Again.Lib.Ascii
import Again.Lib.Paths
import Again.Lib.Unicode

/-!
# Which commands may be answered from the store

`policy.rs`: `classify` reads one raw shell command. A command is admitted for
exact reuse only when its program, options and operands fit a small subset; the
access plan then names the workspace state its result depends on.
-/

namespace Again.Policy

open Lib

structure PolicyContext where
  workspace : Bytes
  cwd : Bytes
  stdinIsTty : Bool
  stdoutIsTty : Bool
  requireExplicitExecutable : Bool

inductive ReasonCode where
  | emptyCommand
  | newline
  | shellComposition
  | shellExpansion
  | globExpansion
  | parseError
  | alreadyWrapped
  | shellResolutionAmbiguous
  | ttyDependent
  | stdinDependent
  | absolutePath
  | outsideWorkspace
  | excludedRuntimePath
  | unsupportedPath
  | missingOperand
  | unsafeFlag
  | unsafeGitSubcommand
  | networkCommand
  | mutatingCommand
  | unsupportedCommand
deriving DecidableEq

/-- The paths are relative to the workspace. -/
inductive AccessScope where
  | identityOnly
  | contentPath (path : Bytes)
  | recursiveContentTree (path : Bytes)
  | directoryListing (path : Bytes)
  | wholeWorkspace
deriving DecidableEq

structure AccessPlan where
  scopes : List AccessScope
deriving DecidableEq

inductive Decision where
  | exactReuse (argv : List String) (accessPlan : AccessPlan)
  | passThrough (reason : ReasonCode)
  | bypassNoStore (reason : ReasonCode)
deriving DecidableEq

/-- What the policy asks the system: the shell's words and the files under a path. -/
structure PolicyCalls where
  /-- `shell_words::split`. -/
  shellSplit : String → Option (List String)
  /-- `fs::canonicalize`. -/
  canonicalize : Bytes → Option Place
  isDir : Bytes → Bool
  isSymlink : Bytes → Bool
  canonical : ∀ {path : Bytes} {place : Place}, canonicalize path = some place → ∀ name ∈ place, IsName name

/-! ## Raw text -/

def containsAny (raw : String) (bytes : Bytes) : Bool := (utf8 raw).any bytes.contains

def rejectShellSyntax (raw : String) : Option ReasonCode :=
  if containsAny raw (utf8 ";|&<>") || (findSubslice (utf8 raw) [92, 10]).isSome then some .shellComposition
  else if containsAny raw (utf8 "$\x60~()\x7b\x7d") then some .shellExpansion
  else if containsAny raw (utf8 "*?[]") then some .globExpansion
  else none

/-! ## Paths -/

section Calls
variable (calls : PolicyCalls)

def normalizeExistingOrAbsolute (path : Bytes) : Option (List Component) :=
  if isAbsolute path then
    match calls.canonicalize path with
    | some place => some (.rootDir :: place.map .normal)
    | none => some (components path)
  else none

def cwdIsInWorkspace (context : PolicyContext) : Bool :=
  match normalizeExistingOrAbsolute calls context.workspace, normalizeExistingOrAbsolute calls context.cwd with
  | some workspace, some cwd => workspace.isPrefixOf cwd
  | _, _ => false

/-- `Path::join`. -/
def joinPath (base value : Bytes) : Bytes :=
  if isAbsolute value || base = [] then value
  else if base.getLast? = some slash then base ++ value
  else base ++ slash :: value

def isExcludedRuntimePath (path : List Component) : Bool :=
  let parts := namesOf path
  parts.contains (utf8 ".again") ||
    anyWindow (fun first second => first == utf8 ".git" && second == utf8 "logs") parts ||
    ((parts.dropWhile (· != utf8 ".git")).tail.any fun part => (utf8 ".lock").isSuffixOf part)

def validatePath (value : String) (context : PolicyContext) : Except ReasonCode Unit := do
  rejectIf (value = "") .unsupportedPath
  rejectIf (value = "-") .stdinDependent
  rejectIf (isAbsolute (utf8 value)) .absolutePath
  let path := components (utf8 value)
  rejectIf (.parentDir ∈ path ∨ .rootDir ∈ path) .outsideWorkspace
  rejectIf (isExcludedRuntimePath path = true) .excludedRuntimePath
  match calls.canonicalize (joinPath context.cwd (utf8 value)) with
  | none => return ()
  | some resolved =>
    let workspace ← requireSome (normalizeExistingOrAbsolute calls context.workspace) .outsideWorkspace
    rejectIf (workspace.isPrefixOf (.rootDir :: resolved.map .normal) = false) .outsideWorkspace

/-- The component a relative path keeps, if it stays below its start. -/
def relativePart : Component → Except ReasonCode (Option Bytes)
  | .curDir => .ok none
  | .normal part => .ok (some part)
  | .parentDir => .error .outsideWorkspace
  | .rootDir => .error .outsideWorkspace

/-- A relative path text; nothing is `.`. -/
def relativeText (parts : List Bytes) : Bytes := if parts = [] then [46] else joinNames parts

def stripComponents (path base : List Component) : Option (List Component) :=
  if base.isPrefixOf path then some (path.drop base.length) else none

def workspaceRelativePath (value : String) (context : PolicyContext) : Except ReasonCode Bytes := do
  validatePath calls value context
  let workspace ← requireSome (normalizeExistingOrAbsolute calls context.workspace) .outsideWorkspace
  let cwd ← requireSome (normalizeExistingOrAbsolute calls context.cwd) .outsideWorkspace
  let cwdRelative ← requireSome (stripComponents cwd workspace) .outsideWorkspace
  let parts ← (cwdRelative ++ components (utf8 value)).mapM relativePart
  return relativeText parts.reduceOption

/-! ## Options -/

inductive FileOptions where
  | none
  | headTail
  | wc
  | ls
deriving DecidableEq

def safeLsFlag (flag : String) : Bool :=
  ["-a", "-A", "-d", "-F", "-r", "-S", "-t", "-1", "--all", "--almost-all", "--directory", "--classify", "--reverse",
    "--sort=name", "--sort=time", "--sort=size", "--time=mtime", "--color=never"].contains flag ||
  (startsWithByte flag 45 && 2 < (utf8 flag).length && (utf8 flag).tail.all (utf8 "aAdFrSt1").contains)

def safeWcFlag (flag : String) : Bool :=
  ["-c", "-m", "-l", "-w", "-L", "--bytes", "--chars", "--lines", "--words", "--max-line-length"].contains flag

/-- The options of `head` and `tail` that take the next word. -/
def takesCount (flag : String) : Bool := ["-n", "-c", "--lines", "--bytes"].contains flag

def shortCount (flag : String) : Bool :=
  match utf8 flag with
  | dash :: letter :: digits => dash == 45 && (letter == 110 || letter == 99) && !digits.isEmpty && digits.all isAsciiDigit
  | _ => false

def safeFileFlag (options : FileOptions) (flag : String) : Bool :=
  match options with
  | .none => false
  | .headTail => ["-q", "-v"].contains flag
  | .wc => safeWcFlag flag
  | .ls => safeLsFlag flag

/-- How many words an option takes with its value: the advance of `index`. -/
inductive OptionWords where
  | one
  | two
deriving DecidableEq

def consumeSafeFileOption (options : FileOptions) (flag : String) (next : Option String) :
    Except ReasonCode OptionWords :=
  if safeFileFlag options flag then .ok .one
  else if options = .headTail ∧ takesCount flag then
    match next with
    | none => .error .unsafeFlag
    | some value => if startsWithByte value 45 || value = "" then .error .unsafeFlag else .ok .two
  else if options = .headTail ∧
      ((utf8 "--lines=").isPrefixOf (utf8 flag) || (utf8 "--bytes=").isPrefixOf (utf8 flag) || shortCount flag) then
    .ok .one
  else .error .unsafeFlag

def lsExplicitlyDisablesColor : List String → Bool
  | [] => false
  | value :: rest =>
    if value = "--" ∨ startsWithByte value 45 = false ∨ value = "-" then false
    else if value = "--color=never" then true
    else lsExplicitlyDisablesColor rest

/-- An option that lists `.` and `..`. -/
def includesDotAndDotdot (flag : String) : Bool :=
  flag == "-a" || flag == "--all" ||
    (startsWithByte flag 45 && !((utf8 "--").isPrefixOf (utf8 flag)) && (utf8 flag).tail.contains 97)

/-- An option that sorts by time or size. -/
def sortsByMetadata (flag : String) : Bool :=
  ["-t", "-S", "--sort=time", "--sort=size"].contains flag ||
    (startsWithByte flag 45 && !((utf8 "--").isPrefixOf (utf8 flag)) && (utf8 flag).tail.any (utf8 "tS").contains)

def lsOptionMix : List String → (dots sorted : Bool) → Bool × Bool
  | [], dots, sorted => (dots, sorted)
  | flag :: rest, dots, sorted =>
    if flag = "--" ∨ startsWithByte flag 45 = false ∨ flag = "-" then (dots, sorted)
    else lsOptionMix rest (dots || includesDotAndDotdot flag) (sorted || sortsByMetadata flag)

def lsOptionMixSupported (words : List String) : Bool :=
  !((lsOptionMix words false false).1 && (lsOptionMix words false false).2)

/-! ## Commands -/

def fileScope (options : FileOptions) (path : Bytes) : AccessScope :=
  match options with
  | .ls => .directoryListing path
  | _ => .contentPath path

/-- The main loop over the words after the program; `operands` counts those seen. -/
def classifyFileWords (program : String) (options : FileOptions) (context : PolicyContext) :
    List String → (optionsDone : Bool) → (operands : Nat) → Except ReasonCode (List AccessScope)
  | [], _, _ => .ok []
  | item :: rest, optionsDone, operands =>
    if optionsDone = false ∧ item = "--" then classifyFileWords program options context rest true operands
    else if item = "-" then .error .stdinDependent
    else if options = .headTail ∧ (utf8 "tail").isSuffixOf (utf8 program) ∧ optionsDone = false ∧ operands = 0 ∧
        startsWithByte item 43 then .error .unsafeFlag
    else if optionsDone = false ∧ startsWithByte item 45 then
      match consumeSafeFileOption options item rest.head?, rest with
      | .error reason, _ => .error reason
      | .ok .one, rest => classifyFileWords program options context rest false operands
      | .ok .two, _ :: rest => classifyFileWords program options context rest false operands
      | .ok .two, [] => .error .unsafeFlag
    else do
      validatePath calls item context
      rejectIf (options = .ls ∧ calls.isSymlink (joinPath context.cwd (utf8 item)) = true) .unsupportedPath
      let path ← workspaceRelativePath calls item context
      let scopes ← classifyFileWords program options context rest true (operands + 1)
      return fileScope options path :: scopes

def classifyFiles (argv : List String) (options : FileOptions) (requireFile : Bool) (context : PolicyContext) :
    Except ReasonCode AccessPlan := do
  rejectIf (options = .ls ∧ (lsExplicitlyDisablesColor argv.tail = false ∨ lsOptionMixSupported argv.tail = false))
    .unsafeFlag
  let scopes ← classifyFileWords calls (argv.headD "") options context argv.tail false 0
  if scopes = [] then
    if requireFile then .error .stdinDependent
    else if options = .ls then
      let path ← workspaceRelativePath calls "." context
      return ⟨[.directoryListing path]⟩
    else return ⟨[]⟩
  else return ⟨scopes⟩

def classifyPwd (argv : List String) : Except ReasonCode AccessPlan :=
  if argv.tail = ["-P"] then .ok ⟨[.identityOnly]⟩ else .error .unsafeFlag

def safeSearchFlag (flag : String) (isRg : Bool) : Bool :=
  ["-i", "-n", "-H", "-v", "-w", "-x", "-F", "--fixed-strings", "--ignore-case", "--line-number", "--with-filename",
    "--no-filename", "--invert-match", "--word-regexp", "--line-regexp"].contains flag ||
  (!isRg && ["-E", "-h"].contains flag) ||
  (isRg && ["--no-ignore", "--no-messages", "--count", "-c", "--sort=path"].contains flag)

/-- What the option loop of a search has seen, and the words left. -/
structure SearchWords where
  rest : List String
  optionsDone : Bool
  noIgnore : Bool
  sortPath : Bool

def searchOptionWords (isRg : Bool) : List String → (noIgnore sortPath : Bool) → Except ReasonCode SearchWords
  | [], noIgnore, sortPath => .ok ⟨[], false, noIgnore, sortPath⟩
  | item :: rest, noIgnore, sortPath =>
    if item = "--" then .ok ⟨rest, true, noIgnore, sortPath⟩
    else if startsWithByte item 45 then
      if safeSearchFlag item isRg then
        searchOptionWords isRg rest (noIgnore || item == "--no-ignore") (sortPath || item == "--sort=path")
      else .error .unsafeFlag
    else .ok ⟨item :: rest, false, noIgnore, sortPath⟩

def firstNormalComponentIsGit (path : List Component) : Bool :=
  match path.find? (· != .curDir) with
  | some (.normal value) => value == utf8 ".git"
  | _ => false

def recursiveRgDirectoryTargetsGit (spelling : String) (relative : Bytes) (context : PolicyContext) : Bool :=
  firstNormalComponentIsGit (components relative) ||
    match calls.canonicalize context.workspace with
    | none => true
    | some workspace =>
      match calls.canonicalize (joinPath context.cwd (utf8 spelling)) with
      | none => false
      | some canonical =>
        match stripBase canonical workspace with
        | some rest => firstNormalComponentIsGit (rest.map .normal)
        | none => false

def searchScope (isRg : Bool) (path : Bytes) : AccessScope := if isRg then .recursiveContentTree path else .contentPath path

def classifySearchPath (isRg optionsDone : Bool) (context : PolicyContext) (item : String) :
    Except ReasonCode AccessScope := do
  rejectIf (optionsDone = false ∧ startsWithByte item 45) .unsafeFlag
  validatePath calls item context
  let path ← workspaceRelativePath calls item context
  rejectIf (isRg = true ∧ calls.isDir (joinPath context.cwd (utf8 item)) = true ∧
    recursiveRgDirectoryTargetsGit calls item path context = true) .unsupportedPath
  return searchScope isRg path

def classifySearch (argv : List String) (isRg : Bool) (context : PolicyContext) : Except ReasonCode AccessPlan := do
  let words ← searchOptionWords isRg argv.tail false false
  match words.rest with
  | [] => .error .missingOperand
  | pattern :: paths =>
    rejectIf (pattern = "-") .stdinDependent
    let scopes ← paths.mapM (classifySearchPath calls isRg words.optionsDone context)
    rejectIf (paths = []) .stdinDependent
    rejectIf (isRg = true ∧ (words.noIgnore = false ∨ words.sortPath = false)) .unsafeFlag
    return ⟨scopes⟩

def networkCommands : List String :=
  ["curl", "wget", "ssh", "scp", "sftp", "rsync", "nc", "ncat", "netcat", "ping", "telnet", "ftp", "dig", "nslookup"]

def mutatingCommands : List String :=
  ["rm", "mv", "cp", "mkdir", "rmdir", "touch", "tee", "chmod", "chown", "ln", "install", "sed", "perl", "python",
    "python3", "node", "npm", "pnpm", "yarn", "pip", "pip3", "cargo", "make", "bash", "sh", "zsh", "sudo", "doas"]

/-- `Path::file_name`. -/
def fileName (path : Bytes) : Option Bytes :=
  match (components path).getLast? with
  | some (.normal name) => some name
  | _ => none

/-- The program a command line runs, or the reason it is left alone. -/
def programOf (context : PolicyContext) (command : String) : Except ReasonCode String :=
  if context.requireExplicitExecutable then
    if isAbsolute (utf8 command) then requireSome ((fileName (utf8 command)).bind fromUtf8?) .shellResolutionAmbiguous
    else .error .shellResolutionAmbiguous
  else if isAbsolute (utf8 command) then .error .absolutePath
  else .ok command

/-- The utilities of the admitted subset. -/
inductive Utility where
  | cat
  | head
  | tail
  | wc
  | ls
  | pwd
  | rg
  | grep
deriving DecidableEq

def utilityNamed (program : String) : Option Utility :=
  match program with
  | "cat" => some .cat
  | "head" => some .head
  | "tail" => some .tail
  | "wc" => some .wc
  | "ls" => some .ls
  | "pwd" => some .pwd
  | "rg" => some .rg
  | "grep" => some .grep
  | _ => none

def classifyUtility (utility : Utility) (argv : List String) (context : PolicyContext) : Except ReasonCode AccessPlan :=
  match utility with
  | .cat => classifyFiles calls argv .none true context
  | .head => classifyFiles calls argv .headTail true context
  | .tail => classifyFiles calls argv .headTail true context
  | .wc => classifyFiles calls argv .wc true context
  | .ls => classifyFiles calls argv .ls false context
  | .pwd => classifyPwd argv
  | .rg => classifySearch calls argv true context
  | .grep => classifySearch calls argv false context

/-- The decision on a command that has been split into words. -/
def classifyArgv (argv : List String) (context : PolicyContext) : Decision :=
  let command := argv.headD ""
  if command = "again" || (utf8 "/again").isSuffixOf (utf8 command) then .bypassNoStore .alreadyWrapped
  else
    match programOf context command with
    | .error reason => .bypassNoStore reason
    | .ok program =>
      if !cwdIsInWorkspace calls context then .bypassNoStore .outsideWorkspace
      else if networkCommands.contains program then .bypassNoStore .networkCommand
      else if mutatingCommands.contains program then .bypassNoStore .mutatingCommand
      else
        match utilityNamed program with
        | none => .passThrough .unsupportedCommand
        | some utility =>
          match classifyUtility calls utility argv context with
          | .ok plan => .exactReuse argv plan
          | .error reason => .bypassNoStore reason

def classify (raw : String) (context : PolicyContext) : Decision :=
  if raw.toList.all isWhitespace then .passThrough .emptyCommand
  else if containsAny raw [10, 13] then .bypassNoStore .newline
  else if context.stdinIsTty || context.stdoutIsTty then .bypassNoStore .ttyDependent
  else
    match rejectShellSyntax raw with
    | some reason => .bypassNoStore reason
    | none =>
      match calls.shellSplit raw with
      | none => .passThrough .parseError
      | some [] => .passThrough .emptyCommand
      | some argv => classifyArgv calls argv context

end Calls

end Again.Policy
