import SentryFlow.Go.Strings
import SentryFlow.Go.Strconv
import SentryFlow.Go.Base64

set_option autoImplicit false

/-!
# The F5 BIG-IP line parser

The package-level `logger` is never assigned (`Start` shadows it), so each call through it
is a nil-pointer panic; slicing and indexing out of range panic as well.
-/

namespace SentryFlow.F5

open SentryFlow.Go

def hslStart : List Char :=
  "__HSL_START__ __HSL_START__ __HSL_START__ __HSL_START__ __HSL_START__ __HSL_START__".toList
def hslEnd : List Char := "__HSL_END__".toList
def reqhs : List Char := "__REQHS__".toList
def reqhe : List Char := "__REQHE__".toList
def hean : List Char := "__HEAN__".toList
def heav : List Char := "__HEAV__".toList
def resphs : List Char := "__RESPHS__".toList
def resphe : List Char := "__RESPHE__".toList
def reqps : List Char := "__REQPS__".toList
def reqpe : List Char := "__REQPE__".toList

inductive Panic
  /-- a method call through the package-level `logger`, which is nil -/
  | nilLogger
  /-- `s[lo:hi]` with `lo > hi` -/
  | sliceBounds (lo hi : Nat)
  /-- `parts[i]` with `i ≥ len(parts)` -/
  | indexRange (i len : Nat)
  deriving DecidableEq, Repr

def pkgLog : Except Panic Unit := throw .nilLogger

/-- A Go `map[string]string`. `set` puts the entry in front and `get?` reads the first
entry with the key, so a later `m[k] = v` overrides an earlier one. -/
structure GoMap where
  entries : List (List Char × List Char)

namespace GoMap

def empty : GoMap := ⟨[]⟩

def set (m : GoMap) (k v : List Char) : GoMap := ⟨(k, v) :: m.entries⟩

def get? (m : GoMap) (k : List Char) : Option (List Char) := m.entries.lookup k

@[simp] theorem get?_empty (k : List Char) : empty.get? k = none := rfl

theorem get?_set (m : GoMap) (k v k' : List Char) :
    (m.set k v).get? k' = if k' = k then some v else m.get? k' := by
  by_cases h : k' = k
  · rw [if_pos h, h]
    exact List.lookup_cons_self
  · have hb : (k' == k) = false := by simpa using h
    simp only [set, get?, List.lookup_cons, hb, if_neg h]

end GoMap

structure Metadata where
  contextId : Nat
  timestamp : BitVec 64
  meshId : List Char
  nodeName : List Char
  receiverName : List Char
  receiverVersion : List Char

structure Workload where
  name : List Char
  «namespace» : List Char
  ip : List Char
  port : BitVec 32

structure Request where
  headers : GoMap
  body : List UInt8

structure Response where
  headers : GoMap
  body : List UInt8
  backendLatencyInNanos : BitVec 64

structure APIEvent where
  metadata : Metadata
  source : Workload
  destination : Workload
  request : Request
  response : Response
  protocol : List Char

/-- One `sec` of `extractHeaders`' loop: skipped unless it holds `HEAV`; otherwise cut at
its first `HEAV`, both halves trimmed of white space and then of `_`. -/
def addSection (out : GoMap) (sec : List Char) : GoMap :=
  if !contains sec heav then out
  else match splitN sec heav 2 with
    | [k, v] => out.set (trim (trimSpace k) "_".toList) (trim (trimSpace v) "_".toList)
    | _ => out

/-- `extractHeaders(s, startTag, endTag)`: the entries between the first `startTag` and the
first `endTag` after it, and the text after that `endTag`; `s` itself when either is
missing. Its error result is always `nil` and is left out. -/
def extractHeaders (s startTag endTag : List Char) : GoMap × List Char :=
  match index s startTag with
  | none => (.empty, s)
  | some startIdx =>
    let tmp := s.drop (startIdx + startTag.length)
    match index tmp endTag with
    | none => (.empty, s)
    | some endIdx =>
      ((split (tmp.take endIdx) hean).foldl addSection .empty,
        tmp.drop (endIdx + endTag.length))

def requestBody (rest : List Char) : List UInt8 :=
  match index rest reqps with
  | none => []
  | some idx =>
    let tmp := rest.drop (idx + reqps.length)
    match index tmp reqpe with
    | none => []
    | some i2 => (decodeString (trimSpace (tmp.take i2))).1

/-- The response body: the base64 after the first `REQPE` to the end, decoded; a decoding
error is logged through the package `logger`. -/
def responseBody (rest : List Char) : Except Panic (List UInt8) :=
  match index rest reqpe with
  | none => pure []
  | some idx => do
    let (raw, err) := decodeString (trimSpace (rest.drop (idx + reqpe.length)))
    if err then pkgLog
    pure raw

def payloadParts (line : List Char) : Except Panic (Option (List (List Char))) :=
  match index line hslStart, index line hslEnd with
  | some start, some stop =>
    if stop < start + hslStart.length then throw (.sliceBounds (start + hslStart.length) stop)
    else pure (some (split (trimSpace ((line.take stop).drop (start + hslStart.length))) [' ']))
  | _, _ => do pkgLog; pure none

def parseParts (parts : List (List Char)) : Except Panic (Option APIEvent) :=
  if parts.length < 10 then do pkgLog; pure none
  else if parts.length ≤ 10 then throw (.indexRange 10 parts.length)
  else if h : parts.length ≤ 11 then throw (.indexRange 11 parts.length)
  else do
    let sourcePort := (atoi parts[5]).1
    let destPort := (atoi parts[7]).1
    let reqTime := (parseInt parts[10]).1
    let respTime := (parseInt parts[11]).1
    let (reqHeaders, rest) := extractHeaders (join (parts.drop 12) [' ']) reqhs reqhe
    let reqHeaders := ((((reqHeaders.set ":scheme".toList parts[0]).set ":path".toList
      parts[1]).set ":method".toList parts[2]).set ":query".toList parts[3])
    let (respHeaders, rest) := extractHeaders rest resphs resphe
    let respHeaders := respHeaders.set ":status".toList parts[9]
    let reqBody := requestBody rest
    let respBody ← responseBody rest
    pure (some
      { metadata := ⟨0, reqTime, [], [], "f5-big-ip".toList, "16.1".toList⟩
        source := ⟨[], [], parts[4], sourcePort.truncate 32⟩
        destination := ⟨[], [], parts[6], destPort.truncate 32⟩
        request := ⟨reqHeaders, reqBody⟩
        response := ⟨respHeaders, respBody, (respTime - reqTime) * 1000000#64⟩
        protocol := parts[8] })

/-- `parseF5LogLine(line)`: `none` is a nil `*pb.APIEvent`. -/
def parseF5LogLine (line : List Char) : Except Panic (Option APIEvent) := do
  let some parts ← payloadParts line | pure none
  parseParts parts

/-! ## Spec lemmas -/

def bodyText (parts : List (List Char)) : List Char :=
  (extractHeaders (extractHeaders (join (parts.drop 12) [' ']) reqhs reqhe).2 resphs resphe).2

theorem parseParts_of_lt {parts : List (List Char)} (h : 11 < parts.length) :
    parseParts parts = (responseBody (bodyText parts)).map fun respBody => some
      { metadata := ⟨0, (parseInt parts[10]).1, [], [], "f5-big-ip".toList, "16.1".toList⟩
        source := ⟨[], [], parts[4], (atoi parts[5]).1.truncate 32⟩
        destination := ⟨[], [], parts[6], (atoi parts[7]).1.truncate 32⟩
        request := ⟨((((extractHeaders (join (parts.drop 12) [' ']) reqhs reqhe).1.set
            ":scheme".toList parts[0]).set ":path".toList parts[1]).set ":method".toList
            parts[2]).set ":query".toList parts[3], requestBody (bodyText parts)⟩
        response := ⟨(extractHeaders (extractHeaders (join (parts.drop 12) [' ']) reqhs
            reqhe).2 resphs resphe).1.set ":status".toList parts[9], respBody,
          ((parseInt parts[11]).1 - (parseInt parts[10]).1) * 1000000#64⟩
        protocol := parts[8] } := by
  rw [parseParts, if_neg (by omega), if_neg (by omega), dif_neg (by omega)]
  rcases h1 : extractHeaders (join (parts.drop 12) [' ']) reqhs reqhe with ⟨m1, r1⟩
  rcases h2 : extractHeaders r1 resphs resphe with ⟨m2, r2⟩
  simp only [bodyText, h1, h2]
  cases responseBody r2 <;> rfl

theorem parseF5LogLine_of_payloadParts {line : List Char} {parts : List (List Char)}
    (h : payloadParts line = .ok (some parts)) : parseF5LogLine line = parseParts parts := by
  rw [parseF5LogLine, h]
  rfl

theorem pkgLog_bind {α : Type} (f : Unit → Except Panic α) : pkgLog >>= f = .error .nilLogger :=
  rfl

end SentryFlow.F5
