import Docroot.Text.Reader

/-!
# Socket addresses

An address of a socket is an address of the Internet protocol and a port: `127.0.0.1:8000`, or
`[::1]:8000` in the newer protocol. Both are read strictly and written in one way only, so an
address as shown in a log or an error may look different from how it was given.
-/

namespace Docroot.Server

open Docroot.Text (Reader)
open Docroot.Text.Reader

/-- An address of the Internet protocol: four numbers below 256, or eight below 65536. -/
inductive IpAddress where
  | v4 (a b c d : Nat)
  | v6 (groups : List Nat)
  deriving DecidableEq, Repr

/-- An address of a socket. The scope belongs to addresses of the newer protocol; 0 is none. -/
structure SocketAddress where
  ip : IpAddress
  port : Nat
  scope : Nat := 0
  deriving DecidableEq, Repr

/-! ## 1. Writing -/

/-- Four numbers with dots between. -/
def dotted (a b c d : Nat) : Text :=
  ['.'].intercalate ([a, b, c, d].map Digits.decimal)

/-- Groups in hexadecimal with colons between. -/
def colons (groups : List Nat) : Text := [':'].intercalate (groups.map Digits.hex)

/-- The longest run of zeros, the first of equal ones: where it begins and how long it is. -/
def longestZeros (groups : List Nat) : Nat × Nat :=
  let runs := (List.range groups.length).map fun i =>
    (i, ((groups.drop i).takeWhile (· = 0)).length)
  runs.foldl (fun best run => if best.2 < run.2 then run else best) (0, 0)

/-- Eight groups: the longest run of two zeros or more is left out, and an address that stands for
    one of the older protocol ends in it. -/
def colonForm (groups : List Nat) : Text :=
  match groups with
  | [0, 0, 0, 0, 0, 0xFFFF, x, y] =>
    "::ffff:".toList ++ dotted (x / 256) (x % 256) (y / 256) (y % 256)
  | _ =>
    let (start, length) := longestZeros groups
    if 1 < length then
      colons (groups.take start) ++ "::".toList ++ colons (groups.drop (start + length))
    else colons groups

/-- An address of the Internet protocol as text. -/
def IpAddress.toText : IpAddress → Text
  | .v4 a b c d => dotted a b c d
  | .v6 groups => colonForm groups

/-- **A socket address as text.** -/
def SocketAddress.toText (s : SocketAddress) : Text :=
  match s.ip with
  | .v4 .. => s.ip.toText ++ ':' :: Digits.decimal s.port
  | .v6 _ =>
    let scope := if s.scope = 0 then [] else '%' :: Digits.decimal s.scope
    '[' :: s.ip.toText ++ scope ++ "]:".toList ++ Digits.decimal s.port

/-! ## 2. Reading -/

/-- A number from 0 to 255 in one to three digits, without a zero in front. -/
def octet : Reader Nat := do
  let ds ← digits 1 none
  let n := Digits.value ds
  if ds.length ≤ 3 ∧ n < 256 ∧ (ds.length = 1 ∨ ds.head? ≠ some '0') then pure n else refuse

/-- Four octets with dots between. -/
def dottedReader : Reader (Nat × Nat × Nat × Nat) := do
  let a ← octet
  char '.'
  let b ← octet
  char '.'
  let c ← octet
  char '.'
  let d ← octet
  pure (a, b, c, d)

/-- A group: one to four hexadecimal digits. -/
def group : Reader Nat := fun s =>
  let ds := s.takeWhile fun c => (Digits.hexValue? c).isSome
  if ds = [] ∨ 4 < ds.length then none
  else some (ds.foldl (fun n d => n * 16 + (Digits.hexValue? d).getD 0) 0, s.drop ds.length)

/-- What precedes a group that is not the first: a colon. -/
def between (first : Bool) : Reader Unit := if first then pure () else char ':'

/-- At most `limit` groups; the last two may be written as an address of the older protocol, and
    whether they are is told too. -/
def groups (first : Bool) : Nat → Reader (List Nat × Bool)
  | 0 => pure ([], false)
  | limit + 1 => fun s =>
    let v4 := if limit = 0 then none else (do between first; dottedReader : Reader _) s
    match v4 with
    | some ((a, b, c, d), rest) => some (([a * 256 + b, c * 256 + d], true), rest)
    | none =>
      match (do between first; group : Reader Nat) s with
      | none => some (([], false), s)
      | some (g, rest) =>
        (groups false limit rest).map fun ((gs, dotted), rest) => ((g :: gs, dotted), rest)

/-- Eight groups, with `::` for a run of zeros. -/
def colonReader : Reader (List Nat) := do
  let (head, dotted) ← groups true 8
  if head.length = 8 then pure head
  else if dotted then refuse
  else
    literal "::".toList
    let (tail, _) ← groups true (7 - head.length)
    pure (head ++ List.replicate (8 - head.length - tail.length) 0 ++ tail)

/-- A number in decimal digits up to `limit`. -/
def upTo (limit : Nat) : Reader Nat := do
  let n := Digits.value (← digits 1 none)
  if n ≤ limit then pure n else refuse

/-- The scope of an address, if one follows. -/
def scopeReader : Reader Nat := fun s =>
  match s with
  | '%' :: rest => upTo 4294967295 rest
  | _ => some (0, s)

/-- A socket address of the newer protocol. -/
def bracketed : Reader SocketAddress := do
  char '['
  let gs ← colonReader
  let scope ← scopeReader
  literal "]:".toList
  pure ⟨.v6 gs, ← upTo 65535, scope⟩

/-- A socket address of the older protocol. -/
def plain : Reader SocketAddress := do
  let (a, b, c, d) ← dottedReader
  char ':'
  pure { ip := .v4 a b c d, port := ← upTo 65535 }

/-- **The socket address a text writes.** -/
def SocketAddress.read? (s : Text) : Option SocketAddress :=
  match readAll? plain s with
  | some a => some a
  | none => readAll? bracketed s

end Docroot.Server
