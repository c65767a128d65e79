import Docroot.Proofs.Site.Cors
import Docroot.Proofs.Site.Reply
import Docroot.Site.Handle

/-!
# What a response depends on

A response is made from what stands at the paths that are looked at, and from nothing else; the
kind of failure of a path that leads nowhere shows in the notices alone.

* `serveFile_response`: the response for a file, by the node at its path.
* `servePath_response`: the response for a request path, by the node that the path leads to.
* `servePath_cases`: a request is answered from one file, or else from none, and then its answer is
  a redirect, a listing or an error page.
* `handle_response`: all of it with the headers that every response carries.
-/

namespace Docroot.Site

open Docroot.Files
open Docroot.Http
open Docroot.Time (Instant Civil OutOfRange HttpDate.ofCivil HttpDate.read? HttpDate.format)

/-! ## 1. Files -/

/-- The client's copy is as the file is now: dated not before the file's last change, and no entity
    tag named. -/
def Ask.isUnchanged (a : Ask) (modified : Instant) : Bool :=
  a.ifNoneMatch.isNone && (a.ifModifiedSince.bind HttpDate.read?).any modified.floor.le

theorem isNotModified_of_hasDate {modified : Instant} (h : modified.hasDate = true) (a : Ask) :
    isNotModified a.ifModifiedSince a.ifNoneMatch modified = .ok (a.isUnchanged modified) := by
  unfold isNotModified Ask.isUnchanged
  cases a.ifNoneMatch with
  | some tag => rfl
  | none =>
    cases a.ifModifiedSince.bind HttpDate.read? with
    | none => rfl
    | some since =>
      unfold Instant.toSeconds
      rw [h]
      rfl

/-- The date of a change as a header value. -/
def dateValue (modified : Instant) : HeaderValue :=
  .ofText (HttpDate.ofCivil (Civil.ofSecs modified.secs)) (Time.all_isValueChar_ofCivil _)

/-- The media type of a file as a header value. -/
def typeValue (file : Path) : HeaderValue :=
  .ofText (MediaType.ofPath file) (MediaType.all_isValueChar_ofPath file)

/-- The response that the client's copy is still good. -/
def unchangedResponse (modified : Instant) : Response :=
  ⟨.notModified, [(.lastModified, dateValue modified)], []⟩

/-- The response that brings a file. -/
def broughtResponse (file : Path) (data : Bytes) (modified : Instant) (isHead : Bool) : Response :=
  ⟨.ok, [(.contentType, typeValue file), (.contentLength, .ofNat data.length),
    (.lastModified, dateValue modified)], bodyFor isHead data⟩

/-- The response for a file, by what stands at its path. -/
def fileResponse (a : Ask) (file : Path) : Option Node → Except OutOfRange Response
  | some (.file content modified rights) =>
    if modified.hasDate then
      .ok (if a.isUnchanged modified then unchangedResponse modified
        else match content.read rights with
          | .ok data => broughtResponse file data modified a.isHead
          | .error _ => notFoundResponse a.isHead)
    else .error .outOfRange
  | _ => .ok (notFoundResponse a.isHead)

theorem stat_eq_of_node {fs : FileSystem} {p : Path} {n : Node} (h : fs.node true p = .ok n) :
    fs.stat p = .ok (FileSystem.metadataOf n) := by
  unfold FileSystem.stat
  rw [h]
  rfl

theorem stat_regular_iff {fs : FileSystem} {p : Path} {modified : Instant} :
    fs.stat p = .ok (.regular modified)
      ↔ ∃ content rights,
        (fs.node true p).toOption = some (.file content modified rights) := by
  unfold FileSystem.stat
  cases fs.node true p with
  | error e => simp [Except.map, Except.toOption]
  | ok n => cases n <;> simp [Except.map, Except.toOption, FileSystem.metadataOf]

theorem read_eq_of_node {fs : FileSystem} {p : Path} {content : Content} {modified : Instant}
    {rights : Rights} (h : fs.node true p = .ok (.file content modified rights)) :
    fs.read p = content.read rights := by
  unfold FileSystem.read
  rw [h]
  rfl

/-- **The response for a file depends on the node at its path alone.** -/
theorem serveFile_response (fs : FileSystem) (a : Ask) (file : Path) :
    (serveFile fs a file).map (·.response) = fileResponse a file (fs.node true file).toOption := by
  unfold serveFile
  cases hnode : fs.node true file with
  | error e =>
    unfold FileSystem.stat
    rw [hnode]
    rfl
  | ok n =>
    rw [stat_eq_of_node hnode]
    cases n with
    | file content modified rights =>
      dsimp only [FileSystem.metadataOf, Except.toOption, fileResponse]
      by_cases hdate : modified.hasDate = true
      · rw [if_pos hdate, Time.HttpDate.format_of_hasDate hdate, isNotModified_of_hasDate hdate]
        dsimp only [bind, Except.bind]
        by_cases hsame : a.isUnchanged modified = true
        · rw [if_pos hsame, if_pos hsame, notModifiedReply_eq (Time.all_isValueChar_ofCivil _)]
          rfl
        · rw [if_neg hsame, if_neg hsame]
          rw [read_eq_of_node hnode]
          cases content.read rights with
          | error e => rfl
          | ok data =>
            dsimp only
            rw [fileReply_eq data (MediaType.all_isValueChar_ofPath file)
              (Time.all_isValueChar_ofCivil _)]
            rfl
      · have hno : modified.hasDate = false := by simpa using hdate
        rw [if_neg hdate, Time.HttpDate.format_of_not_hasDate hno]
        rfl
    | directory children rights => rfl
    | link target => rfl
    | pipe => rfl

/-! ## 2. Request paths -/

/-- **The response for a request path depends on the node that the path leads to**, and on what is
    below it if that is a directory. -/
theorem servePath_response (fs : FileSystem) (site : Site) (a : Ask) :
    (servePath fs site a).map (·.response)
      = match (fs.node true (translate site.root a.path).path).toOption with
        | none => .ok (notFoundResponse a.isHead)
        | some (.directory _ _) =>
          if (translate site.root a.path).trailingSlash then
            (serveDirectory fs site.policy a (translate site.root a.path).path).map (·.response)
          else .ok (redirectReply a.directoryLocation).response
        | some n =>
          if (translate site.root a.path).trailingSlash then .ok (notFoundResponse a.isHead)
          else fileResponse a (translate site.root a.path).path (some n) := by
  unfold servePath
  dsimp only
  generalize translate site.root a.path = t
  have hfile := serveFile_response fs a t.path
  cases hnode : fs.node true t.path with
  | error e =>
    unfold FileSystem.stat
    rw [hnode]
    rfl
  | ok n =>
    rw [hnode] at hfile
    rw [stat_eq_of_node hnode]
    cases n with
    | directory children rights =>
      dsimp only [FileSystem.metadataOf, Except.toOption]
      split <;> rfl
    | _ =>
      dsimp only [FileSystem.metadataOf, Except.toOption] at hfile ⊢
      split
      · rfl
      · exact hfile

/-- The file that a request is answered from: the one that its path leads to, or the index file of
    the directory. -/
def servedFile? (fs : FileSystem) (site : Site) (a : Ask) : Option Path :=
  let t := translate site.root a.path
  match fs.stat t.path with
  | .error _ => none
  | .ok .directory => if t.trailingSlash then findIndex fs t.path else none
  | .ok _ => if t.trailingSlash then none else some t.path

/-- The file depends on the path alone. -/
theorem servedFile?_congr (fs : FileSystem) (site : Site) {a b : Ask} (h : a.path = b.path) :
    servedFile? fs site a = servedFile? fs site b := by
  unfold servedFile?
  rw [h]

theorem status_listDirectory (fs : FileSystem) (a : Ask) (dir : Path) :
    (listDirectory fs a dir).response.status = .ok
      ∨ (listDirectory fs a dir).response.status = .notFound := by
  unfold listDirectory
  split
  · exact Or.inl rfl
  · exact Or.inr rfl

theorem status_redirectReply (location : Text) :
    (redirectReply location).response.status = .movedPermanently := by
  rw [redirectReply_cases]
  split <;> rfl

/-- **Replies without a file**, to a path that no file answers. -/
inductive IsWithoutFile (fs : FileSystem) (site : Site) (a : Ask) : Reply → Prop where
  /-- The path leads nowhere. -/
  | missing (place : Path) :
    IsWithoutFile fs site a { a.notFound with notices := [.notFound place] }
  /-- It leads to what is not given out. -/
  | notFound : IsWithoutFile fs site a a.notFound
  | listing (dir : Path) : IsWithoutFile fs site a (listDirectory fs a dir)
  /-- It leads to a directory, and the slash is missing. -/
  | redirect (hstat : fs.stat (translate site.root a.path).path = .ok .directory)
    (hslash : (translate site.root a.path).trailingSlash = false) :
    IsWithoutFile fs site a (redirectReply a.directoryLocation)

/-- **A request is answered from its file**, or without one if it has none. -/
theorem servePath_cases (fs : FileSystem) (site : Site) (a : Ask) :
    match servedFile? fs site a with
    | some file => servePath fs site a = serveFile fs a file
    | none => ∃ reply, servePath fs site a = .ok reply ∧ IsWithoutFile fs site a reply := by
  unfold servedFile? servePath
  dsimp only
  cases hstat : fs.stat (translate site.root a.path).path with
  | error e => exact ⟨_, rfl, .missing _⟩
  | ok m =>
    cases hslash : (translate site.root a.path).trailingSlash with
    | false =>
      cases m with
      | directory => exact ⟨_, rfl, .redirect hstat hslash⟩
      | _ => rfl
    | true =>
      cases m with
      | directory =>
        unfold serveDirectory
        dsimp only
        rw [if_pos rfl, if_pos rfl]
        cases findIndex fs (translate site.root a.path).path with
        | some index => rfl
        | none =>
          cases site.policy with
          | indexOnly => exact ⟨_, rfl, .notFound⟩
          | indexOrListing => exact ⟨_, rfl, .listing _⟩
      | _ => exact ⟨_, rfl, .notFound⟩

theorem servePath_of_servedFile? {fs : FileSystem} {site : Site} {a : Ask} {file : Path}
    (h : servedFile? fs site a = some file) : servePath fs site a = serveFile fs a file := by
  have hcases := servePath_cases fs site a
  rwa [h] at hcases

theorem exists_withoutFile {fs : FileSystem} {site : Site} {a : Ask}
    (h : servedFile? fs site a = none) :
    ∃ reply, servePath fs site a = .ok reply ∧ IsWithoutFile fs site a reply := by
  have hcases := servePath_cases fs site a
  rwa [h] at hcases

/-- **A request that is answered from no file** gets a page or a redirect, never the answer that
    the client's copy is good. -/
theorem servePath_of_no_file {fs : FileSystem} {site : Site} {a : Ask}
    (h : servedFile? fs site a = none) :
    ∃ reply, servePath fs site a = .ok reply
      ∧ reply.response.status ∈ [Status.ok, .movedPermanently, .notFound] := by
  obtain ⟨reply, hreply, hwithout⟩ := exists_withoutFile h
  refine ⟨reply, hreply, ?_⟩
  have hnotFound : Status.notFound ∈ [Status.ok, .movedPermanently, .notFound] := by decide
  cases hwithout with
  | missing place => exact hnotFound
  | notFound => exact hnotFound
  | listing dir =>
    rcases status_listDirectory fs a dir with e | e
    · rw [e]
      decide
    · rw [e]
      exact hnotFound
  | redirect hstat hslash =>
    rw [status_redirectReply]
    decide

/-! ## 3. Requests -/

theorem noQuery_legal : Target.mayHold isQueryChar ((none : Option Text).getD []) = true := rfl

/-- A GET request for a path without a query. -/
def getRequest (path : Text) (legal : Target.mayHold isPathChar path = true) (headers : Headers) :
    Request :=
  ⟨.get, ⟨false, path, none, legal, noQuery_legal⟩, .http11, headers⟩

theorem respond_eq_servePath (fs : FileSystem) (site : Site) {r : Request}
    (h : r.method = .get ∨ r.method = .head) :
    respond fs site r = servePath fs site (askOf r) := by
  unfold respond
  rw [if_pos h]

@[simp] theorem status_finish (serverName : Text) (r : Response) :
    (finish serverName r).status = r.status := by
  unfold finish
  dsimp only
  split <;> rfl

@[simp] theorem body_finish (serverName : Text) (r : Response) :
    (finish serverName r).body = r.body := by
  unfold finish
  dsimp only
  split <;> rfl

/-- The headers that a response gets at the end. -/
def addedNames : List HeaderName := [.allowOrigin, .allowMethods, .allowHeaders, .server]

/-- The server's name is put behind the cross-origin headers and changes none of them. -/
theorem values_finish_of_ne (serverName : Text) (r : Response) {n : HeaderName} (h : n ≠ .server) :
    Headers.values (finish serverName r).headers n = Headers.values (insertCors r.headers) n := by
  unfold finish
  dsimp only
  split
  · rw [Headers.values_insert, if_neg h]
  · rfl

/-- **A response keeps its own headers** when it gets those that every response carries. -/
theorem values_finish (serverName : Text) (r : Response) {n : HeaderName} (h : n ∉ addedNames) :
    Headers.values (finish serverName r).headers n = Headers.values r.headers n := by
  have hcors : n ∉ corsNames :=
    fun hm => h (show n ∈ corsNames ++ [.server] from List.mem_append_left _ hm)
  have hserver : n ≠ .server := fun e => h (by simp [addedNames, e])
  rw [values_finish_of_ne serverName r hserver, values_insertCors_of_notMem hcors]

/-- **The response to a request**: that of its responder, with the headers that every response
    carries. -/
theorem handle_response (fs : FileSystem) (site : Site) (peer : Text) (timing : Timing)
    (r : Request) :
    (handle fs site peer timing r).map (·.response)
      = ((respond fs site r).map (·.response)).map (finish site.settings.serverName) := by
  unfold handle
  cases respond fs site r <;> rfl

/-- An answer is made of a reply. -/
theorem exists_reply_of_handle {fs : FileSystem} {site : Site} {peer : Text} {timing : Timing}
    {r : Request} {answer : Handled} (h : handle fs site peer timing r = .ok answer) :
    ∃ reply, respond fs site r = .ok reply
      ∧ answer.response = finish site.settings.serverName reply.response := by
  unfold handle at h
  cases hrespond : respond fs site r with
  | error e =>
    rw [hrespond] at h
    cases h
  | ok reply =>
    rw [hrespond] at h
    cases h
    exact ⟨reply, rfl, rfl⟩

/-- What a result brings, by what is made of it. -/
theorem exists_map_iff {ε α β : Type} {x : Except ε α} {f : α → β} {P : β → Prop} :
    (∃ b, x.map f = .ok b ∧ P b) ↔ ∃ a, x = .ok a ∧ P (f a) := by
  cases x <;> simp [Except.map]

/-- What holds of the response to a request, by the response of its responder. -/
theorem exists_handle_iff {fs : FileSystem} {site : Site} {peer : Text} {timing : Timing}
    {r : Request} {P : Response → Prop} :
    (∃ answer, handle fs site peer timing r = .ok answer ∧ P answer.response)
      ↔ ∃ response, (respond fs site r).map (·.response) = .ok response
        ∧ P (finish site.settings.serverName response) := by
  have h := exists_map_iff (x := handle fs site peer timing r) (f := (·.response)) (P := P)
  rw [handle_response, exists_map_iff] at h
  exact h.symm

end Docroot.Site
