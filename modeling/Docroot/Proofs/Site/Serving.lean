import Docroot.Proofs.Files.Tree
import Docroot.Proofs.Http.Target
import Docroot.Proofs.Site.Serve
import Docroot.Proofs.Site.Translate

/-!
# Files are served, and nothing else is

Every readable file below the root can be asked for: the names that lead to it, escaped and joined
by slashes, are a target, and a request with this target brings the file, whatever query follows
(`brings_of_offers`).

In the other direction, a path that does not lead to a directory brings a regular file or nothing
(`fileOrNothing_servePath`).
-/

namespace Docroot.Site

open Docroot.Files
open Docroot.Http
open Docroot.Time (Instant OutOfRange HttpDate.format HttpDate.ofCivil Civil)

/-! ## 1. What is offered and what is brought -/

/-- **A file that can be asked for**: names lead to it from the root, it is a regular file that can
    be read, and its time has a date. -/
structure Offers (fs : FileSystem) (root : Path) (names : List Text) (modified : Instant)
    (data : Bytes) : Prop where
  ne_nil : names ≠ []
  servable : ∀ name ∈ names, IsServable name
  stat : fs.stat (namesBelow root names) = .ok (.regular modified)
  read : fs.read (namesBelow root names) = .ok data
  hasDate : modified.hasDate = true

/-- **A response that brings a file**, with its octets, their number, its type and its date. -/
structure Brings (file : Path) (modified : Instant) (data : Bytes) (r : Response) : Prop where
  status : r.status = .ok
  body : r.body = data
  length : Headers.values r.headers .contentLength = [.ofNat data.length]
  type : (Headers.values r.headers .contentType).map (·.bytes)
    = [Utf8.encode (MediaType.ofPath file)]
  date : ∃ text, HttpDate.format modified = .ok text
    ∧ (Headers.values r.headers .lastModified).map (·.bytes) = [Utf8.encode text]

theorem brings_broughtResponse (file : Path) {modified : Instant} (data : Bytes)
    (h : modified.hasDate = true) :
    Brings file modified data (broughtResponse file data modified false) where
  status := rfl
  body := rfl
  length := rfl
  type := rfl
  date := ⟨_, Time.HttpDate.format_of_hasDate h, rfl⟩

theorem Brings.finish {file : Path} {modified : Instant} {data : Bytes} {r : Response}
    (h : Brings file modified data r) (serverName : Text) :
    Brings file modified data (finish serverName r) where
  status := by rw [status_finish, h.status]
  body := by rw [body_finish, h.body]
  length := by rw [values_finish serverName r (by decide), h.length]
  type := by rw [values_finish serverName r (by decide), h.type]
  date := by
    rw [values_finish serverName r (by decide)]
    exact h.date

/-! ## 2. Files that are offered are brought -/

/-- A file that is there and can be read, as a node. -/
theorem node_of_stat_of_read {fs : FileSystem} {p : Path} {modified : Instant} {data : Bytes}
    (hstat : fs.stat p = .ok (.regular modified)) (hread : fs.read p = .ok data) :
    ∃ content rights, fs.node true p = .ok (.file content modified rights)
      ∧ content.read rights = .ok data := by
  obtain ⟨content, rights, hnode⟩ := stat_regular_iff.1 hstat
  rw [toOption_eq_some_iff] at hnode
  exact ⟨content, rights, hnode, (read_eq_of_node hnode).symm.trans hread⟩

section

variable {fs : FileSystem} {root : Path} {names : List Text} {modified : Instant} {data : Bytes}

theorem isPathChar_of_isCoded {c : Char} (h : Percent.isCoded c = true) : isPathChar c = true :=
  Percent.forall_isCoded (P := fun c => isPathChar c = true) (by decide +kernel) h

theorem all_isPathChar_pathOfNames (names : List Text) :
    (pathOfNames names).all isPathChar = true :=
  List.all_eq_true.2 fun _ hc => isPathChar_of_isCoded (isCoded_of_mem_pathOfNames hc)

theorem Offers.ofBytes (h : Offers fs root names modified data) :
    Target.ofBytes (Utf8.encode (pathOfNames names))
      = .ok ⟨false, pathOfNames names, none,
        Target.mayHold_of_all (all_isPathChar_pathOfNames names), rfl⟩ := by
  obtain ⟨content, rights, hnode, -⟩ := node_of_stat_of_read h.stat h.read
  have hfault := FileSystem.pathFault_of_node hnode
  have hlen := length_pathOfNames_le root h.servable
  obtain ⟨-, -, hpath⟩ := pathFault_eq_none_iff.1 hfault
  apply Target.ofBytes_written (q := none) (all_isPathChar_pathOfNames names) rfl
  unfold pathLimit at hpath
  unfold Target.maxLength
  show (Utf8.encode (pathOfNames names)).length ≤ 65534
  omega

/-- Without a date the client has no copy. -/
theorem isUnchanged_askOf {r : Request} (h : Headers.values r.headers .ifModifiedSince = [])
    (modified : Instant) : (askOf r).isUnchanged modified = false := by
  have hsince : (askOf r).ifModifiedSince = none := Headers.getText?_of_values_nil h
  unfold Ask.isUnchanged
  rw [hsince]
  exact Bool.and_false _

/-- **A request that is answered from a readable file brings the file.** -/
theorem brings_of_servedFile? {site : Site} {r : Request} {file : Path}
    (hserved : servedFile? fs site (askOf r) = some file)
    (hstat : fs.stat file = .ok (.regular modified)) (hread : fs.read file = .ok data)
    (hdate : modified.hasDate = true) (hget : r.method = .get)
    (hsince : Headers.values r.headers .ifModifiedSince = []) (peer : Text) (timing : Timing) :
    ∃ answer, handle fs site peer timing r = .ok answer
      ∧ Brings file modified data answer.response := by
  rw [exists_handle_iff, respond_eq_servePath fs site (Or.inl hget)]
  have hhead : (askOf r).isHead = false := by
    unfold askOf
    rw [hget]
    rfl
  refine ⟨_, ?_, (brings_broughtResponse _ data hdate).finish _⟩
  obtain ⟨content, rights, hnode, hdata⟩ := node_of_stat_of_read hstat hread
  rw [servePath_of_servedFile? hserved, serveFile_response, hnode]
  dsimp only [Except.toOption, fileResponse]
  rw [if_pos hdate, isUnchanged_askOf hsince, hdata, hhead]
  rfl

/-- **A request for the names of a file brings the file**, whatever query it has. -/
theorem brings_of_offers {site : Site} (h : Offers fs site.root names modified data)
    {query : Bytes} (hquery : Target.BeginsQuery query) {r : Request}
    (htarget : Target.ofBytes (Utf8.encode (pathOfNames names) ++ query) = .ok r.target)
    (hget : r.method = .get) (hsince : Headers.values r.headers .ifModifiedSince = [])
    (peer : Text) (timing : Timing) :
    ∃ answer, handle fs site peer timing r = .ok answer
      ∧ Brings (namesBelow site.root names) modified data answer.response := by
  have hpath : (askOf r).path = pathOfNames names :=
    Target.path_of_ofBytes (all_isPathChar_pathOfNames names) hquery htarget
  have hserved : servedFile? fs site (askOf r) = some (namesBelow site.root names) := by
    unfold servedFile?
    dsimp only
    rw [hpath, translate_pathOfNames site.root h.ne_nil h.servable, h.stat]
    rfl
  exact brings_of_servedFile? hserved h.stat h.read h.hasDate hget hsince peer timing

end

/-! ## 3. Nothing else is brought -/

/-- What a response may be that was made from a file: the client's copy is good, or here are the
    octets of the file. -/
def IsFrom (fs : FileSystem) (a : Ask) (file : Path) (r : Response) : Prop :=
  r.status = .notModified
    ∨ r.status = .ok ∧ ∃ data, fs.read file = .ok data ∧ r.body = bodyFor a.isHead data

/-- A path that leads to a regular file and asks for no directory. -/
def LeadsToFile (fs : FileSystem) (t : Translated) (modified : Instant) : Prop :=
  fs.stat t.path = .ok (.regular modified) ∧ t.trailingSlash = false

/-- **The file that a path leads to, or nothing.** A response is made from that file or its status
    is `404`; and the one case without a response is a file whose time has no date. -/
def FileOrNothing (fs : FileSystem) (a : Ask) (t : Translated) : Except OutOfRange Response → Prop
  | .ok r =>
    (IsFrom fs a t.path r ∧ ∃ modified, LeadsToFile fs t modified) ∨ r.status = .notFound
  | .error _ => ∃ modified, LeadsToFile fs t modified ∧ modified.hasDate = false

theorem fileOrNothing_notFoundResponse (fs : FileSystem) (a : Ask) (t : Translated)
    (isHead : Bool) : FileOrNothing fs a t (.ok (notFoundResponse isHead)) := Or.inr rfl

theorem fileOrNothing_fileResponse {fs : FileSystem} (a : Ask) {t : Translated} {n : Node}
    (hnode : fs.node true t.path = .ok n) (hslash : t.trailingSlash = false) :
    FileOrNothing fs a t (fileResponse a t.path (some n)) := by
  cases n with
  | file content modified rights =>
    have hleads : LeadsToFile fs t modified := ⟨stat_eq_of_node hnode, hslash⟩
    dsimp only [fileResponse]
    by_cases hdate : modified.hasDate = true
    · rw [if_pos hdate]
      by_cases hsame : a.isUnchanged modified = true
      · rw [if_pos hsame]
        exact Or.inl ⟨Or.inl rfl, modified, hleads⟩
      · rw [if_neg hsame]
        cases hdata : content.read rights with
        | error e => exact fileOrNothing_notFoundResponse fs a t a.isHead
        | ok data =>
          have hread := (read_eq_of_node hnode).trans hdata
          exact Or.inl ⟨Or.inr ⟨rfl, data, hread, rfl⟩, modified, hleads⟩
    · rw [if_neg hdate]
      exact ⟨modified, hleads, by simpa using hdate⟩
  | _ => exact fileOrNothing_notFoundResponse fs a t a.isHead

/-- **A path that does not lead to a directory** brings the regular file that it leads to, or
    nothing. -/
theorem fileOrNothing_servePath {fs : FileSystem} {site : Site} {a : Ask}
    (hdir : fs.stat (translate site.root a.path).path ≠ .ok .directory) :
    FileOrNothing fs a (translate site.root a.path) ((servePath fs site a).map (·.response)) := by
  rw [servePath_response]
  generalize translate site.root a.path = t at hdir ⊢
  have hnone := fileOrNothing_notFoundResponse fs a t a.isHead
  cases hnode : fs.node true t.path with
  | error e => exact hnone
  | ok n =>
    have hfile := fileOrNothing_fileResponse a hnode
    dsimp only [Except.toOption]
    cases n with
    | directory children rights => exact absurd (stat_eq_of_node hnode) hdir
    | _ =>
      dsimp only
      split
      · exact hnone
      · next hslash => exact hfile (by simpa using hslash)

/-- **Files are served and nothing else is.** A file that names lead to from the root is brought by
    every unconditional GET request for the names, which always are a target. And whatever does not
    lead to a directory brings the regular file that it leads to or is not found. -/
theorem serves_files_alone :
    (∀ (fs : FileSystem) (site : Site) (names : List Text) (modified : Instant) (data : Bytes),
      Offers fs site.root names modified data →
      (∃ target, Target.ofBytes (Utf8.encode (pathOfNames names)) = .ok target)
      ∧ (∀ q : Text, q.all isQueryChar = true →
          (Utf8.encode (pathOfNames names ++ '?' :: q)).length ≤ Target.maxLength →
          ∃ target, Target.ofBytes (Utf8.encode (pathOfNames names ++ '?' :: q)) = .ok target)
      ∧ ∀ (query : Bytes) (r : Request) (peer : Text) (timing : Timing),
          Target.BeginsQuery query →
          Target.ofBytes (Utf8.encode (pathOfNames names) ++ query) = .ok r.target →
          r.method = .get → Headers.values r.headers .ifModifiedSince = [] →
          ∃ answer, handle fs site peer timing r = .ok answer
            ∧ Brings (namesBelow site.root names) modified data answer.response)
    ∧ ∀ (fs : FileSystem) (site : Site) (a : Ask),
        fs.stat (translate site.root a.path).path ≠ .ok .directory →
        FileOrNothing fs a (translate site.root a.path)
          ((servePath fs site a).map (·.response)) := by
  refine ⟨fun fs site names modified data h => ⟨⟨_, h.ofBytes⟩, ?_, ?_⟩,
    fun fs site a hdir => fileOrNothing_servePath hdir⟩
  · intro q hq hlen
    exact ⟨_, Target.ofBytes_written (q := some q) (all_isPathChar_pathOfNames names) hq hlen⟩
  · intro query r peer timing hquery htarget hget hsince
    exact brings_of_offers h hquery htarget hget hsince peer timing

/-- A file system with the file `a b%.txt` at the root `w`. -/
def spacedFile : FileSystem where
  top := .directory [([0x77],
    .directory [(Utf8.encode "a b%.txt".toList, .file (.bytes [0x68, 0x69]) ⟨784111777, 5⟩)])]
  here := []

theorem node_spacedFile : spacedFile.node true (namesBelow [0x77] ["a b%.txt".toList])
    = .ok (.file (.bytes [0x68, 0x69]) ⟨784111777, 5⟩) :=
  node_loneFile ⟨784111777, 5⟩ (by decide) (by decide) (by decide) true

theorem offers_spacedFile :
    Offers spacedFile [0x77] ["a b%.txt".toList] ⟨784111777, 5⟩ [0x68, 0x69] where
  ne_nil := by decide
  servable := by decide
  stat := stat_eq_of_node node_spacedFile
  read := read_eq_of_node node_spacedFile
  hasDate := by decide

/-- `GET /a%20b%25.txt?x=1` -/
def spacedRequest : Request :=
  ⟨.get, ⟨false, "/a%20b%25.txt".toList, some "x=1".toList, by decide, by decide⟩, .http11, []⟩

/-- The file is brought, and with a slash behind its name there is nothing in its place. -/
theorem serves_spacedFile :
    (∃ answer, handle spacedFile ⟨.default, [0x77], .indexOrListing⟩ [] ⟨⟨⟨0, 0⟩, 0⟩, 0⟩
          spacedRequest = .ok answer
        ∧ Brings (namesBelow [0x77] ["a b%.txt".toList]) ⟨784111777, 5⟩ [0x68, 0x69]
            answer.response)
      ∧ FileOrNothing spacedFile ⟨"/a%20b%25.txt/".toList, none, false, none, none⟩
          (translate [0x77] "/a%20b%25.txt/".toList)
          ((servePath spacedFile ⟨.default, [0x77], .indexOrListing⟩
            ⟨"/a%20b%25.txt/".toList, none, false, none, none⟩).map (·.response)) := by
  have htarget : Target.ofBytes
      (Utf8.encode (pathOfNames ["a b%.txt".toList]) ++ Utf8.encode "?x=1".toList)
      = .ok spacedRequest.target := by rfl
  have hstat : spacedFile.stat (translate [0x77] "/a%20b%25.txt/".toList).path
      = .ok (.regular ⟨784111777, 5⟩) := stat_eq_of_node node_spacedFile
  constructor
  · obtain ⟨-, -, hbrings⟩ := serves_files_alone.1 spacedFile ⟨.default, [0x77], .indexOrListing⟩
      _ _ _ offers_spacedFile
    exact hbrings _ spacedRequest _ _ (Or.inr ⟨_, rfl⟩) htarget rfl rfl
  · refine serves_files_alone.2 spacedFile ⟨.default, [0x77], .indexOrListing⟩
      ⟨"/a%20b%25.txt/".toList, none, false, none, none⟩ ?_
    rw [hstat]
    simp

end Docroot.Site
