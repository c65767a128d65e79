import Docroot.Proofs.Site.Redirect
import Docroot.Proofs.Site.Translate

/-!
# Redirects converge

The place that a redirect names is the path with a slash behind it. Asked for that, the site
answers from the directory that the path led to, and does not redirect again
(`redirect_converges`). The slash stands behind whatever the path ends in: an escape or a character
left unfinished there stays as it was, since the slash can neither go on with it nor be taken into
it (`plainNames_decode_append_slash`), and blank characters in front of it are no longer at the
end.
-/

namespace Docroot.Site

open Docroot.Files
open Docroot.Http
open Docroot.Time (OutOfRange)

/-- The same, asked for with a slash behind the path. -/
def Ask.withSlash (a : Ask) : Ask := { a with path := a.path ++ ['/'] }

/-- The place that a redirect names is the target with the slash. -/
theorem Ask.target_withSlash (a : Ask) : a.withSlash.target = a.directoryLocation := by
  unfold Ask.target Ask.withSlash Ask.directoryLocation
  dsimp only
  cases a.query with
  | none => rfl
  | some q => exact List.append_assoc _ _ _

/-- **Only a path that lacks its slash is redirected.** -/
theorem lacksSlash_of_servePath {fs : FileSystem} {site : Site} {a : Ask} {reply : Reply}
    (h : servePath fs site a = .ok reply)
    (hstatus : reply.response.status = .movedPermanently) :
    LacksSlash fs (translate site.root a.path) := by
  apply Classical.byContradiction
  intro hno
  have hresponse : (servePath fs site a).map (·.response) = .ok reply.response := by
    rw [h]
    rfl
  exact status_of_not_lacksSlash hno hresponse hstatus

theorem servePath_of_slash {fs : FileSystem} {site : Site} {a : Ask} {dir : Path}
    (htranslate : translate site.root a.path = ⟨dir, true⟩)
    (hstat : fs.stat dir = .ok .directory) :
    servePath fs site a = serveDirectory fs site.policy a dir := by
  unfold servePath
  rw [htranslate]
  dsimp only
  rw [hstat]
  rfl

/-- **A redirect converges in one step.** Where a path without a number sign is redirected, the
    place named is the path with a slash behind it. This path leads to the same directory and asks
    for one, so what it gets is the answer for that directory, and no redirect. -/
theorem redirect_converges (fs : FileSystem) (site : Site) {a : Ask} (hsharp : '#' ∉ a.path)
    {reply : Reply} (h : servePath fs site a = .ok reply)
    (hstatus : reply.response.status = .movedPermanently) :
    Headers.values reply.response.headers .location
        = (HeaderValue.ofText? a.withSlash.target).toList
      ∧ translate site.root a.withSlash.path = ⟨(translate site.root a.path).path, true⟩
      ∧ servePath fs site a.withSlash
        = serveDirectory fs site.policy a.withSlash (translate site.root a.path).path
      ∧ ∀ next, servePath fs site a.withSlash = .ok next →
          next.response.status ≠ .movedPermanently := by
  have hlacks := lacksSlash_of_servePath h hstatus
  have htranslate : translate site.root a.withSlash.path
      = ⟨(translate site.root a.path).path, true⟩ := translate_concat_slash site.root hsharp
  have hserve := servePath_of_slash htranslate hlacks.1
  refine ⟨?_, htranslate, hserve, fun next hnext => ?_⟩
  · cases h.symm.trans (servePath_of_lacksSlash hlacks)
    rw [location_redirectReply, a.target_withSlash]
  · have hresponse : (serveDirectory fs site.policy a.withSlash
        (translate site.root a.path).path).map (·.response) = .ok next.response := by
      rw [← hserve, hnext]
      rfl
    exact status_serveDirectory hresponse

/-- The path of the directory `levels` with an escaped slash behind it. -/
def escapedSlash : Ask := ⟨"/levels%2F".toList, some "x".toList, false, none, none⟩

/-- An escaped slash at the end is no slash, and the one that is put behind it is. -/
theorem redirect_converges_escapedSlash :
    ∃ reply, servePath levels ⟨.default, [0x77], .indexOnly⟩ escapedSlash = .ok reply
      ∧ (Headers.values reply.response.headers .location).map (·.bytes)
        = [Utf8.encode "/levels%2F/?x".toList]
      ∧ servePath levels ⟨.default, [0x77], .indexOnly⟩ escapedSlash.withSlash
        = serveDirectory levels .indexOnly escapedSlash.withSlash
            (translate [0x77] "//levels".toList).path := by
  have htranslate : translate [0x77] escapedSlash.path = translate [0x77] "//levels".toList := by
    decide
  have hlacks : LacksSlash levels (translate [0x77] escapedSlash.path) := by
    rw [htranslate]
    exact lacksSlash_levels
  obtain ⟨hlocation, -, hserve, -⟩ := redirect_converges levels ⟨.default, [0x77], .indexOnly⟩
    (a := escapedSlash) (by decide) (servePath_of_lacksSlash hlacks) (status_redirectReply _)
  refine ⟨_, servePath_of_lacksSlash hlacks, ?_, ?_⟩
  · rw [hlocation]
    decide
  · rw [hserve, htranslate]

end Docroot.Site
