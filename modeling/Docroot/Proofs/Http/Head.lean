import Docroot.Http.Head
import Docroot.Proofs.Http.Target

/-!
# What is read of a head

A head is read part by part, so what holds of a request that was read is found by taking the reader
apart (`exists_of_bind`). Its target was read of octets like any other, so a header can name it
(`isNameable_of_readHead`).
-/

namespace Docroot.Http

/-- What two readers one after the other have read, each has read its part of. -/
theorem exists_of_bind {α β : Type} {first : HeadReader α} {next : α → HeadReader β} {s : Bytes}
    {result : β × Bytes} (h : (first >>= next) s = .ok result) :
    ∃ a rest, first s = .ok (a, rest) ∧ next a rest = .ok result := by
  change (first s).bind (fun p => next p.1 p.2) = .ok result at h
  cases hfirst : first s with
  | error halt =>
    rw [hfirst] at h
    cases h
  | ok p =>
    rw [hfirst] at h
    exact ⟨p.1, p.2, rfl, h⟩

theorem eq_ok_of_refusing {α : Type} {r : Except HeadFault α} {s rest : Bytes} {a : α}
    (h : refusing r s = .ok (a, rest)) : r = .ok a := by
  cases r with
  | ok b =>
    cases h
    rfl
  | error fault => cases h

theorem ofBytes_of_requestTarget {word : Bytes} {t : Target} (h : requestTarget word = .ok t) :
    Target.ofBytes word = .ok t := by
  unfold requestTarget at h
  split at h
  · next hread =>
    cases h
    exact hread
  · cases h
  · cases h

/-- **The target of a request that is read** was read of octets. -/
theorem exists_ofBytes_of_readHead {sent : Bytes} {r : Request} (h : readHead sent = .ok r) :
    ∃ word, Target.ofBytes word = .ok r.target := by
  unfold readHead at h
  split at h
  · next rest hread =>
    cases h
    obtain ⟨-, s₁, -, h₁⟩ := exists_of_bind hread
    obtain ⟨method, s₂, -, h₂⟩ := exists_of_bind h₁
    obtain ⟨word, s₃, -, h₃⟩ := exists_of_bind h₂
    obtain ⟨version, s₄, -, h₄⟩ := exists_of_bind h₃
    obtain ⟨-, s₅, -, h₅⟩ := exists_of_bind h₄
    obtain ⟨headers, s₆, -, h₆⟩ := exists_of_bind h₅
    obtain ⟨target, s₇, htarget, h₇⟩ := exists_of_bind h₆
    obtain ⟨-, s₈, -, h₈⟩ := exists_of_bind h₇
    cases h₈
    exact ⟨word, ofBytes_of_requestTarget (eq_ok_of_refusing htarget)⟩
  · cases h
  · cases h

/-- **A header can name the target of every request that is read.** -/
theorem isNameable_of_readHead {sent : Bytes} {r : Request} (h : readHead sent = .ok r) :
    r.target.IsNameable := by
  obtain ⟨word, htarget⟩ := exists_ofBytes_of_readHead h
  exact Target.isNameable_of_ofBytes htarget

end Docroot.Http
