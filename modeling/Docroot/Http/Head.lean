import Docroot.Http.Request
import Docroot.Http.Status
import Docroot.Text.Blank

/-!
# The head of a request on the wire

A client sends a head and perhaps a body. The head is a line with method, target and version, then
header lines, then an empty line; lines end in a line feed, with or without a carriage return, and
empty lines in front are passed over. Reading a head has three ends:

* it is read, and what follows it is left;
* the octets end too early to tell (`Halt.unfinished`);
* it is refused for a fault, which may show long before the head is complete (`Halt.refused`).

Faults are found from left to right. Only when all lines are read are the target, and then the
fields that tell how a body ends, looked at more closely. A body is never read, but a head that
contradicts itself about it is refused, because whoever forwarded it may have understood it
otherwise.
-/

namespace Docroot.Http

/-! ## 1. Faults -/

/-- What is wrong with the head of a request. -/
inductive HeadFault where
  | method
  | target
  | targetTooLong
  | version
  /-- The client speaks the next version of the protocol from the first octet on. -/
  | nextVersion
  /-- A header line, or the end of any line. -/
  | line
  | contentLength
  /-- The body does not end in chunked coding. -/
  | coding
  /-- A coding in a version of the protocol that has none. -/
  | codingUnexpected
  | tooLarge
  deriving DecidableEq, Repr

/-- The name of a fault, as programmers read it. -/
def HeadFault.label : HeadFault → Text
  | .method => "Method".toList
  | .target => "Uri".toList
  | .targetTooLong => "UriTooLong".toList
  | .version => "Version".toList
  | .nextVersion => "VersionH2".toList
  | .line => "Header(Token)".toList
  | .contentLength => "Header(ContentLengthInvalid)".toList
  | .coding => "Header(TransferEncodingInvalid)".toList
  | .codingUnexpected => "Header(TransferEncodingUnexpected)".toList
  | .tooLarge => "TooLarge".toList

/-- The status that a faulty head is answered with; none where no answer is sent, because the
    client would not understand it. -/
def HeadFault.status? : HeadFault → Option Status
  | .nextVersion => none
  | .targetTooLong => some .uriTooLong
  | .tooLarge => some .headersTooLarge
  | _ => some .badRequest

/-- Why a head is not read to its end. -/
inductive Halt where
  | unfinished
  | refused (fault : HeadFault)
  deriving DecidableEq, Repr

/-- Takes a value from the front of some octets and leaves the rest, or halts. -/
abbrev HeadReader := StateT Bytes (Except Halt)

/-! ## 2. Lines and words -/

/-- Carriage return. -/
def cr : UInt8 := 0x0D
/-- Line feed. -/
def lf : UInt8 := 0x0A
/-- What ends each line that the server writes. -/
def crlf : Bytes := [cr, lf]

/-- The end of a line. -/
def lineEnd : HeadReader Unit
  | [] => .error .unfinished
  | 0x0A :: rest => .ok ((), rest)
  | [0x0D] => .error .unfinished
  | 0x0D :: 0x0A :: rest => .ok ((), rest)
  | _ => .error (.refused .line)

/-- Passes over the empty lines in front of a head. -/
def emptyLines : HeadReader Unit
  | [] => .error .unfinished
  | 0x0A :: rest => emptyLines rest
  | [0x0D] => .error .unfinished
  | 0x0D :: 0x0A :: rest => emptyLines rest
  | 0x0D :: _ => .error (.refused .line)
  | s => .ok ((), s)

/-- The octets before the next space, which goes too: one or more, and all of the kind. -/
def wordBeforeSpace (ofKind : UInt8 → Bool) (fault : HeadFault) : HeadReader Bytes := fun s =>
  let word := s.takeWhile ofKind
  match s.drop word.length with
  | [] => .error .unfinished
  | b :: rest => if b = 0x20 ∧ word ≠ [] then .ok (word, rest) else .error (.refused fault)

/-! ## 3. The first line -/

/-- An octet of a token. -/
def isTokenByte (b : UInt8) : Bool := isTokenChar (Char.ofNat b.toNat)

/-- An octet that a target may have on the wire: no control and no space. -/
def isTargetByte (b : UInt8) : Bool := 0x21 ≤ b.toNat && b.toNat ≠ 0x7F

/-- The method. -/
def methodReader : HeadReader Method := do
  match Method.ofBytes? (← wordBeforeSpace isTokenByte .method) with
  | some m => pure m
  | none => throw (.refused .method)

/-- The octets of the target, which are UTF-8. -/
def targetReader : HeadReader Bytes := do
  let word ← wordBeforeSpace isTargetByte .target
  if (Utf8.decode? word).isSome then pure word else throw (.refused .target)

/-- What both versions begin with. -/
def versionStem : Bytes := Utf8.encode "HTTP/1.".toList

/-- The version. A wrong octet shows at once, but the last one only together with the rest. -/
def versionReader : HeadReader Version := fun s =>
  if s.length < 8 then
    if s.take 7 <+: versionStem then .error .unfinished else .error (.refused .version)
  else if s.take 8 = versionStem ++ [0x30] then .ok (.http10, s.drop 8)
  else if s.take 8 = versionStem ++ [0x31] then .ok (.http11, s.drop 8)
  else .error (.refused .version)

/-! ## 4. Header lines -/

/-- A space or a tab. -/
def isGap (b : UInt8) : Bool := b == 0x20 || b == 0x09

/-- The octets without the gaps at both ends. -/
def trimGaps (s : Bytes) : Bytes := ((s.dropWhile isGap).reverse.dropWhile isGap).reverse

/-- The value of a header line, with the end of the line. -/
def valueReader : HeadReader HeaderValue := fun s =>
  let run := s.takeWhile isValueByte
  match lineEnd (s.drop run.length) with
  | .error halt => .error halt
  | .ok (_, rest) =>
    match HeaderValue.ofBytes? (trimGaps run) with
    | some v => .ok (v, rest)
    | none => .error (.refused .line)

/-- The name of a header line, with the colon. -/
def nameReader : HeadReader HeaderName := fun s =>
  let name := s.takeWhile isTokenByte
  match s.drop name.length with
  | [] => .error .unfinished
  | b :: rest =>
    if b = 0x3A ∧ name ≠ [] then
      match HeaderName.ofBytes? name with
      | some n => .ok (n, rest)
      | none => .error (.refused .tooLarge)
    else .error (.refused .line)

/-- One header line. -/
def fieldReader : HeadReader (HeaderName × HeaderValue) := do
  let name ← nameReader
  let value ← valueReader
  pure (name, value)

/-- The header lines up to the empty line, which goes too; at most `limit` of them. -/
def fieldsReader (limit : Nat) : HeadReader Headers := fun s =>
  match s with
  | [] => .error .unfinished
  | b :: _ =>
    if b = cr ∨ b = lf then (lineEnd s).map fun (_, rest) => ([], rest)
    else
      match fieldReader s with
      | .error halt => .error halt
      | .ok (field, rest) =>
        match limit with
        | 0 => .error (.refused .tooLarge)
        | limit + 1 => (fieldsReader limit rest).map fun (fields, rest) => (field :: fields, rest)

/-! ## 5. How a body would end -/

/-- The largest number of header lines. -/
def maxFields : Nat := 100

/-- The largest length that a body can be said to have. -/
def maxBodyLength : Nat := 18446744073709551613

/-- The largest number of 64 bits. -/
def maxWord : Nat := 18446744073709551615

/-- The length that a value writes, in digits alone. -/
def lengthOf? (v : HeaderValue) : Option Nat :=
  match Digits.read? (v.bytes.map fun b => Char.ofNat b.toNat) with
  | some n => if n ≤ maxWord then some n else none
  | none => none

/-- The last coding that a value names is the chunked one. -/
def endsInChunked (v : HeaderValue) : Bool :=
  match v.toText? with
  | some t => Text.eqIgnoringCase (Text.trim ((cutAt ',' t).getLast?.getD [])) "chunked".toList
  | none => false

/-- What the fields seen so far say of the body: whether it ends in chunked coding, if it has a
    coding, and its length. -/
structure Framing where
  chunked : Option Bool := none
  length : Option Nat := none

/-- One more field. A length is not looked at once there was a coding. -/
def Framing.step (version : Version) (f : Framing) (field : HeaderName × HeaderValue) :
    Except HeadFault Framing :=
  if field.1 = .transferEncoding then
    if version = .http10 then .error .codingUnexpected
    else .ok { f with chunked := some (endsInChunked field.2) }
  else if field.1 = .contentLength ∧ f.chunked = none then
    match lengthOf? field.2 with
    | none => .error .contentLength
    | some n =>
      if f.length.any (· ≠ n) then .error .contentLength
      else if maxBodyLength < n then .error .tooLarge
      else .ok { f with length := some n }
  else .ok f

/-- The fields say one thing about the body. -/
def checkFraming (version : Version) (h : Headers) : Except HeadFault Unit := do
  let f ← h.foldlM (Framing.step version) {}
  if f.chunked = some false then .error .coding else .ok ()

/-! ## 6. Reading a head -/

/-- The target of a request, once the head is complete. -/
def requestTarget (b : Bytes) : Except HeadFault Target :=
  match Target.ofBytes b with
  | .ok t => .ok t
  | .error .tooLong => .error .targetTooLong
  | .error _ => .error .target

/-- A fault as the reason to halt. -/
def refusing {α : Type} (r : Except HeadFault α) : HeadReader α :=
  match r with
  | .ok a => pure a
  | .error fault => throw (.refused fault)

/-- A head. -/
def headReader : HeadReader Request := do
  emptyLines
  let method ← methodReader
  let word ← targetReader
  let version ← versionReader
  lineEnd
  let headers ← fieldsReader maxFields
  let target ← refusing (requestTarget word)
  refusing (checkFraming version headers)
  pure { method, target, version, headers }

/-- A head must end within this many octets. -/
def maxHeadLength : Nat := 417792

/-- What a client says first that speaks the next version of the protocol. -/
def preface : Bytes := Utf8.encode "PRI * HTTP/2.0\r\n\r\nSM\r\n\r\n".toList

/-- The octets without the line ends in front. -/
def withoutLineEnds (s : Bytes) : Bytes := s.dropWhile fun b => b = cr ∨ b = lf

/-- **The head of the request that begins some octets**, or why there is none. -/
def readHead (sent : Bytes) : Except Halt Request :=
  match headReader (sent.take maxHeadLength) with
  | .ok (r, _) => .ok r
  | .error .unfinished =>
    .error (if maxHeadLength ≤ sent.length then .refused .tooLarge else .unfinished)
  | .error (.refused fault) =>
    .error (.refused (if preface <+: withoutLineEnds sent then .nextVersion else fault))

end Docroot.Http
