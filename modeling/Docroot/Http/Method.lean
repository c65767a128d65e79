import Docroot.Http.Token

/-!
# Request methods

A method is a token, in the case in which it was sent. Two of them matter here, GET and HEAD.
-/

namespace Docroot.Http

/-- A method: any token. -/
structure Method where
  name : Text
  isToken_name : isToken name = true

instance : DecidableEq Method := fun a b =>
  decidable_of_iff (a.name = b.name) (by cases a; cases b; simp)

namespace Method

/-- The method that octets name, if they are a token. -/
def ofBytes? (b : Bytes) : Option Method :=
  let s : Text := b.map fun x => Char.ofNat x.toNat
  if h : isToken s = true then some ⟨s, h⟩ else none

/-- `GET`. -/
def get : Method := ⟨['G', 'E', 'T'], by decide⟩
/-- `HEAD`. -/
def head : Method := ⟨['H', 'E', 'A', 'D'], by decide⟩

end Method

end Docroot.Http
