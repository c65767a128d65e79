import Docroot.Files.Path

/-!
# Media types by file extension

The type of a file is told by its extension alone, whatever the case of its letters. What is not
in the table is a stream of octets.
-/

namespace Docroot.MediaType

/-- Extensions and the type of a file that has one of them. -/
def table : List (List String × String) := [
  (["html", "htm"], "text/html; charset=utf-8"),
  (["css"], "text/css"),
  (["txt", "md"], "text/plain; charset=utf-8"),
  (["csv"], "text/csv"),
  (["xml"], "application/xml"),
  (["js", "mjs"], "text/javascript"),
  (["json", "map"], "application/json"),
  (["wasm"], "application/wasm"),
  (["png"], "image/png"),
  (["jpg", "jpeg"], "image/jpeg"),
  (["gif"], "image/gif"),
  (["svg"], "image/svg+xml"),
  (["ico"], "image/vnd.microsoft.icon"),
  (["webp"], "image/webp"),
  (["bmp"], "image/bmp"),
  (["mp3"], "audio/mpeg"),
  (["wav"], "audio/wav"),
  (["ogg", "oga"], "audio/ogg"),
  (["flac"], "audio/flac"),
  (["m4a"], "audio/mp4"),
  (["mp4"], "video/mp4"),
  (["webm"], "video/webm"),
  (["ogv"], "video/ogg"),
  (["gltf"], "model/gltf+json"),
  (["glb"], "model/gltf-binary"),
  (["woff"], "font/woff"),
  (["woff2"], "font/woff2"),
  (["ttf"], "font/ttf"),
  (["otf"], "font/otf"),
  (["pdf"], "application/pdf"),
  (["zip"], "application/zip"),
  (["gz"], "application/gzip")]

/-- The type of what has no known extension. -/
def octetStream : Text := "application/octet-stream".toList

/-- The type that belongs to an extension. -/
def ofExtension (extension : Option Text) : Text :=
  match extension with
  | none => octetStream
  | some e =>
    match table.find? fun (es, _) => es.any (·.toList == Text.lowerAscii e) with
    | some (_, type) => type.toList
    | none => octetStream

/-- **The type of the file at a path.** An extension that is not text is as good as none. -/
def ofPath (p : Path) : Text := ofExtension (p.extension?.bind Utf8.decode?)

end Docroot.MediaType
