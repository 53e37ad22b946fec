import Again.Lib.Ascii
import Again.Lib.Runs

/-!
# Credential shapes

`privacy.rs`: `detect_credential_shape` runs seven detectors over a text in
turn. All of them look at bytes; the text is UTF-8, which none of them needs.
-/

namespace Again.Privacy

open Lib

inductive CredentialKind where
  | pemPrivateKey
  | awsAccessKey
  | gitHubToken
  | bearerToken
  | jwtLike
  | secretAssignment
  | highEntropyToken
deriving DecidableEq

/-! ## Tokens -/

def isIdentifierByte (b : UInt8) : Bool := isAsciiAlphanumeric b || b == 95

/-- Letters, digits and `_ - . + / =`. -/
def isTokenByte (b : UInt8) : Bool :=
  isAsciiAlphanumeric b || b == 95 || b == 45 || b == 46 || b == 43 || b == 47 || b == 61

def tokenRanges (bytes : Bytes) : List (Nat × Nat) := runs isTokenByte bytes

def hasTokenBoundaries (bytes : Bytes) (start stop : Nat) : Bool :=
  (start == 0 || !(bytes[start - 1]?.any isIdentifierByte)) &&
    (stop == bytes.length || !(bytes[stop]?.any isIdentifierByte))

/-! ## The detectors -/

def containsPemPrivateKey (text : Bytes) : Bool :=
  let begin := utf8 "-----BEGIN "
  (findAll text begin).any fun offset =>
    let remaining := text.drop (offset + begin.length)
    let lineEnd := min (remaining.findIdx fun b => b == 10 || b == 13) 80
    (findSubslice (remaining.take lineEnd) (utf8 "PRIVATE KEY-----")).isSome

def awsMarks : List Bytes :=
  ["AKIA", "ASIA", "AIDA", "AROA", "AIPA", "ANPA", "ANVA", "ASCA"].map utf8

def containsAwsAccessKey (bytes : Bytes) : Bool :=
  if bytes.length < 20 then false
  else (List.range (bytes.length - 20 + 1)).any fun start =>
    let token := slice bytes start (start + 20)
    awsMarks.any (fun mark => mark.isPrefixOf token) &&
      token.all (fun b => isAsciiUppercase b || isAsciiDigit b) && hasTokenBoundaries bytes start (start + 20)

def gitHubMarks : List (Bytes × Nat) :=
  [(utf8 "ghp_", 30), (utf8 "gho_", 30), (utf8 "ghu_", 30), (utf8 "ghs_", 30), (utf8 "ghr_", 30),
    (utf8 "github_pat_", 20)]

def containsGithubToken (bytes : Bytes) : Bool :=
  gitHubMarks.any fun (mark, minimumTail) =>
    (findAll bytes mark).any fun start =>
      let tail := (bytes.drop (start + mark.length)).findIdx fun b => !isAsciiAlphanumeric b && b != 95
      minimumTail ≤ tail && hasTokenBoundaries bytes start (start + mark.length + tail)

def containsBearerToken (bytes : Bytes) : Bool :=
  let lower := toAsciiLowercase bytes
  (findAll lower (utf8 "bearer")).any fun start =>
    if 0 < start && lower[start - 1]?.any isAsciiAlphanumeric then false
    else
      let rest := bytes.drop (start + (utf8 "bearer").length)
      if !(rest.head?.any isAsciiWhitespace) then false
      else 8 ≤ ((rest.dropWhile isAsciiWhitespace).takeWhile isTokenByte).length

/-- A byte of a JWT segment. -/
def isBase64Url (b : UInt8) : Bool := isAsciiAlphanumeric b || b == 95 || b == 45

def dot : UInt8 := 46

def isJwtLike (token : Bytes) : Bool :=
  match token.splitOn dot with
  | [header, payload, signature] =>
    (utf8 "eyJ").isPrefixOf header && 8 ≤ header.length && 8 ≤ payload.length && 8 ≤ signature.length &&
      [header, payload, signature].all fun segment => segment.all isBase64Url
  | _ => false

def containsJwtLike (text : Bytes) : Bool :=
  (tokenRanges text).any fun (start, stop) => isJwtLike (slice text start stop)

def isPlaceholder (value : Bytes) : Bool :=
  let value := toAsciiLowercase (trimMatches (utf8 "'\"<>[]") value)
  value.isEmpty ||
    (["none", "null", "redacted", "masked", "placeholder", "changeme"].map utf8).contains value ||
    (utf8 "$\x7b").isPrefixOf value || (utf8 "\x7b\x7b").isPrefixOf value

def secretKeys : List Bytes :=
  ["password", "passwd", "secret", "token", "api_key", "apikey", "access_key", "private_key", "client_secret",
    "authorization", "aws_secret_access_key"].map utf8

def isQuote (b : UInt8) : Bool := b == 39 || b == 34

def containsSecretAssignment (bytes : Bytes) : Bool :=
  let lower := toAsciiLowercase bytes
  secretKeys.any fun key =>
    (findAll lower key).any fun start =>
      if 0 < start && lower[start - 1]?.any isAsciiAlphanumeric then false
      else if lower[start + key.length]?.any isAsciiAlphanumeric then false
      else
        match (bytes.drop (start + key.length)).dropWhile fun b => isAsciiWhitespace b || isQuote b with
        | [] => false
        | sign :: rest =>
          if !(sign == 61 || sign == 58) then false
          else
            let value := (rest.dropWhile fun b => isAsciiWhitespace b || isQuote b).takeWhile fun b =>
              !(isAsciiWhitespace b || isQuote b || b == 44 || b == 59)
            4 ≤ value.length && !isPlaceholder value

def looksLikeUuid (token : Bytes) : Bool :=
  token.length == 36 && [8, 13, 18, 23].all (fun index => token[index]? == some 45) &&
    token.zipIdx.all fun (b, index) => [8, 13, 18, 23].contains index || isAsciiHexdigit b

def isObviousHash (all : Bytes) (start : Nat) (token : Bytes) : Bool :=
  let lower := toAsciiLowercase token
  if (["sha256-", "sha384-", "sha512-", "blake3-"].map utf8).any (fun mark => mark.isPrefixOf lower) then true
  else if looksLikeUuid token then true
  else
    let prior := slice all (start - 8) start
    (["sha256:", "sha384:", "sha512:", "blake3:", "h1:"].map utf8).any fun mark => mark.isSuffixOf prior

def entropyClasses (token : Bytes) : Nat :=
  (token.any isAsciiLowercase).toNat + (token.any isAsciiUppercase).toNat + (token.any isAsciiDigit).toNat +
    (token.any fun b => !isAsciiAlphanumeric b).toNat

def shannonEntropy (token : Bytes) : Float :=
  let length := Float.ofNat token.length
  (((List.range 256).map fun b => token.count (UInt8.ofNat b)).filter (· != 0)).foldl (fun sum count =>
    let probability := Float.ofNat count / length
    sum + -probability * probability.log2) 0

def containsHighEntropyToken (bytes : Bytes) : Bool :=
  (tokenRanges bytes).any fun (start, stop) =>
    let token := slice bytes start stop
    if token.length < 32 || 512 < token.length || isObviousHash bytes start token then false
    else if token.all isAsciiHexdigit then 3.2 ≤ shannonEntropy token
    else 3 ≤ entropyClasses token && 4.2 ≤ shannonEntropy token

def detectCredentialShape (text : Bytes) : Option CredentialKind :=
  if containsPemPrivateKey text then some .pemPrivateKey
  else if containsAwsAccessKey text then some .awsAccessKey
  else if containsGithubToken text then some .gitHubToken
  else if containsBearerToken text then some .bearerToken
  else if containsJwtLike text then some .jwtLike
  else if containsSecretAssignment text then some .secretAssignment
  else if containsHighEntropyToken text then some .highEntropyToken
  else none

end Again.Privacy
