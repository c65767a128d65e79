import Docroot.Text.Utf8

/-!
# Request targets

The target of a request is a path with an optional query (`/a/b?x=1`), the same after a scheme and
an authority (`http://host/a/b?x=1`), an authority alone (`host:80`), or `*`. Scheme and authority
are checked and then forgotten, since nothing here depends on them.

A fragment, if one was sent, is cut off. Which characters a path and a query may hold is part of
the type. Those that are read are printable ASCII without the space, the number sign and a few more,
and anything beyond ASCII. The type leaves room for one more, the delete character. When a target is
read it is refused, like every other control character, as an `invalid uri character`; what holds of
all targets does not rest on that.
-/

namespace Docroot.Http

/-! ## 1. The characters -/

/-- A character that is read in a path. -/
def isPathChar (c : Char) : Bool :=
  let n := c.toNat
  n == 0x21 || n == 0x22 || (0x24 ≤ n && n ≤ 0x3B) || n == 0x3D || (0x40 ≤ n && n ≤ 0x5F)
    || (0x61 ≤ n && n ≤ 0x7E) || 0x80 ≤ n

/-- A character that is read in a query. -/
def isQueryChar (c : Char) : Bool :=
  let n := c.toNat
  n == 0x21 || (0x24 ≤ n && n ≤ 0x3B) || n == 0x3D || (0x3F ≤ n && n ≤ 0x7E) || 0x80 ≤ n

/-- The delete character, U+007F. -/
def Target.delete : Char := '\x7f'

/-- The text is made of characters of a kind and of delete characters. -/
def Target.mayHold (ofKind : Char → Bool) (s : Text) : Bool :=
  s.all fun c => ofKind c || c == delete

theorem Target.mayHold_of_all {ofKind : Char → Bool} {s : Text} (h : s.all ofKind = true) :
    mayHold ofKind s = true := by
  unfold mayHold
  rw [List.all_eq_true] at h ⊢
  intro c hc
  rw [h c hc, Bool.true_or]

/-- The target of a request. -/
structure Target where
  /-- The target is an authority and has no path. -/
  authorityOnly : Bool
  /-- The path as sent, still percent-coded; it may be empty. -/
  sentPath : Text
  /-- What follows the question mark, if there is one. -/
  query : Option Text
  path_legal : Target.mayHold isPathChar sentPath = true
  query_legal : Target.mayHold isQueryChar (query.getD []) = true

namespace Target

/-- **The path**, still percent-coded. A target with no path asks for the root, unless it is an
    authority alone. -/
def path (t : Target) : Text :=
  if t.authorityOnly then [] else if t.sentPath = [] then ['/'] else t.sentPath

/-- **Path and query as logged**: as sent, with a slash in front of a query that stands alone. -/
def shown (t : Target) : Text :=
  if t.authorityOnly then []
  else
    let s := match t.query with
      | none => t.sentPath
      | some q => t.sentPath ++ '?' :: q
    match s with
    | [] => ['/']
    | c :: _ => if c = '/' ∨ c = '*' then s else '/' :: s

/-! ## 2. Why a target cannot be read -/

/-- What is wrong with a target. -/
inductive Fault where
  | tooLong
  | empty
  | schemeTooLong
  | character
  | authority
  | format
  deriving DecidableEq, Repr

/-- A fault in words. -/
def Fault.message : Fault → Text
  | .tooLong => "uri too long".toList
  | .empty => "empty string".toList
  | .schemeTooLong => "scheme too long".toList
  | .character => "invalid uri character".toList
  | .authority => "invalid authority".toList
  | .format => "invalid format".toList

/-! ## 3. Authorities -/

/-- The marks that an authority may have besides letters and digits; `%` is looked at apart. -/
def authorityMarks : Bytes := Utf8.encode "!$&'()*+,-.:;=@[]_~".toList

/-- An octet that an authority may have. -/
def isAuthorityByte (b : UInt8) : Bool :=
  (Char.ofNat b.toNat).isAlphanum || authorityMarks.contains b

/-- What has been seen of an authority: how many colons may still separate a port, whether brackets
    have been opened and closed, and whether an escape may stand in the host. -/
structure AuthorityState where
  colons : Nat := 0
  opened : Bool := false
  closed : Bool := false
  escaped : Bool := false

/-- One more octet of an authority. What precedes an `@` is not the host, and what precedes a `]`
    is an address, so both forget colons and escapes. -/
def AuthorityState.step (s : AuthorityState) (b : UInt8) : Except Fault AuthorityState :=
  match Char.ofNat b.toNat with
  | ':' => if 8 ≤ s.colons then .error .authority else .ok { s with colons := s.colons + 1 }
  | '[' => if s.escaped || s.opened then .error .authority else .ok { s with opened := true }
  | ']' =>
    if !s.opened || s.closed then .error .authority
    else .ok { s with closed := true, colons := 0, escaped := false }
  | '@' => .ok { s with colons := 0, escaped := false }
  | '%' => .ok { s with escaped := true }
  | _ => if isAuthorityByte b then .ok s else .error .character

/-- Checks an authority that has no `/`, `?` or `#` in it. -/
def checkAuthority (a : Bytes) : Except Fault Unit := do
  let s ← a.foldlM AuthorityState.step {}
  if s.opened != s.closed then .error .authority
  else if 1 < s.colons then .error .authority
  else if a.getLast? = some 0x40 then .error .authority
  else if s.escaped then .error .authority
  else .ok ()

/-- Ends an authority: `/`, `?` or `#`. -/
def endsAuthority (b : UInt8) : Bool := b == 0x2F || b == 0x3F || b == 0x23

/-- The authority in front of some octets, and what follows it. -/
def takeAuthority (s : Bytes) : Except Fault (Bytes × Bytes) := do
  if s = [] then .error .empty
  else
    let a := s.takeWhile (!endsAuthority ·)
    checkAuthority a
    .ok (a, s.drop a.length)

/-! ## 4. Schemes -/

/-- The longest scheme. -/
def maxSchemeLength : Nat := 64

/-- An octet that a scheme may have. -/
def isSchemeByte (b : UInt8) : Bool :=
  (Char.ofNat b.toNat).isAlphanum || b == 0x2B || b == 0x2D || b == 0x2E || b == 0x7E

/-- What follows a scheme and `://`; none where there is no scheme. -/
def afterScheme (s : Bytes) : Except Fault (Option Bytes) :=
  let word := s.takeWhile isSchemeByte
  match s.drop word.length with
  | 0x3A :: 0x2F :: 0x2F :: rest =>
    if s.length ≤ 3 then .ok none
    else if maxSchemeLength < word.length then .error .schemeTooLong
    else .ok (some rest)
  | _ => .ok none

/-! ## 5. Reading -/

/-- A path and query, fragment and all. -/
def ofPathAndQuery (s : Bytes) : Except Fault Target :=
  let s := s.takeWhile (· ≠ 0x23)
  match Utf8.decode? s with
  | none => .error .character
  | some t =>
    let (path, query) := cutFirst '?' t
    if h : path.all isPathChar = true ∧ (query.getD []).all isQueryChar = true then
      .ok ⟨false, path, query, mayHold_of_all h.1, mayHold_of_all h.2⟩
    else .error .character

/-- A target that is an authority alone. -/
def authorityTarget : Target := ⟨true, [], none, rfl, rfl⟩

/-- The longest target. -/
def maxLength : Nat := 65534

/-- **The target that octets write.** -/
def ofBytes (s : Bytes) : Except Fault Target :=
  if maxLength < s.length then .error .tooLong
  else match s with
    | [] => .error .empty
    | [b] =>
      if b = 0x2F ∨ b = 0x2A then ofPathAndQuery s
      else do
        let (_, rest) ← takeAuthority s
        if rest = [] then .ok authorityTarget else .error .character
    | 0x2F :: _ => ofPathAndQuery s
    | _ => do
      match ← afterScheme s with
      | none =>
        let (_, rest) ← takeAuthority s
        if rest = [] then .ok authorityTarget else .error .format
      | some rest =>
        let (a, rest) ← takeAuthority rest
        if a = [] then .error .format else ofPathAndQuery rest

end Target

end Docroot.Http
