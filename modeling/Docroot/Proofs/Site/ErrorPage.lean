import Docroot.Proofs.Html
import Docroot.Proofs.Number.Digits
import Docroot.Proofs.Text.Utf8
import Docroot.Site.Reply

/-!
# An error page tells its message

The page of an error is taken apart at its tags (`errorPage_eq`). These are the same in all error
pages, since a message is escaped before it is put in (`tags_errorPage`). So the message is in one
paragraph (`paragraphs_errorPage`), which ends where the tag behind it begins, however the message goes
on and whatever it looks like; and from there it can be read.
-/

namespace Docroot.Site

open Docroot.Http
open Docroot.Html (Piece IsClean ofPieces pieces tags)

/-! ## 1. The pieces of an error page -/

/-- The paragraph of the code. -/
def codeText (status : Status) : Text := "Error code: ".toList ++ Digits.decimal status.code

/-- The paragraph of the message. -/
def messageText (message : Text) : Text := "Message: ".toList ++ Html.escape message ++ ['.']

/-- The paragraph of the explanation. -/
def explanationText (status : Status) : Text :=
  "Error code explanation: ".toList ++ Digits.decimal status.code ++ " - ".toList
    ++ status.explanation ++ ['.']

/-- The pieces before the paragraphs. -/
def errorHead : List Piece :=
  [("!DOCTYPE HTML".toList, "\n".toList), ("html lang=\"en\"".toList, "\n    ".toList),
    ("head".toList, "\n        ".toList), ("meta charset=\"utf-8\"".toList, "\n        ".toList),
    ("title".toList, "Error response".toList), ("/title".toList, "\n    ".toList),
    ("/head".toList, "\n    ".toList), ("body".toList, "\n        ".toList),
    ("h1".toList, "Error response".toList), ("/h1".toList, "\n        ".toList)]

/-- The pieces of the paragraphs, and those behind them. -/
def errorBody (code message explanation : Text) : List Piece :=
  [("p".toList, code), ("/p".toList, "\n        ".toList),
    ("p".toList, message), ("/p".toList, "\n        ".toList),
    ("p".toList, explanation), ("/p".toList, "\n    ".toList),
    ("/body".toList, "\n".toList), ("/html".toList, "\n".toList)]

/-- The pieces of an error page. -/
def errorPieces (status : Status) (message : Text) : List Piece :=
  errorHead ++ errorBody (codeText status) (messageText message) (explanationText status)

/-- **An error page is made of its pieces.** -/
theorem errorPage_eq (status : Status) (message : Text) :
    errorPage status message = ofPieces (errorPieces status message) := by
  have hhead : "<!DOCTYPE HTML>\n<html lang=\"en\">\n    <head>\n        <meta charset=\"utf-8\">\n".toList
      ++ "        <title>Error response</title>\n    </head>\n    <body>\n".toList
      ++ "        <h1>Error response</h1>\n        <p>Error code: ".toList
      = ofPieces errorHead ++ "<p>Error code: ".toList := by decide +kernel
  unfold errorPage errorPieces errorBody codeText messageText explanationText
  rw [hhead, Html.ofPieces_append]
  simp only [ofPieces, List.flatMap_cons, List.flatMap_nil, List.cons_append, List.append_assoc]
  rfl

theorem notMem_codeText (status : Status) : '<' ∉ codeText status := by
  unfold codeText
  rw [List.mem_append, not_or]
  exact ⟨by decide, Digits.notMem_decimal (by decide) _⟩

theorem notMem_messageText (message : Text) : '<' ∉ messageText message := by
  unfold messageText
  rw [List.mem_append, List.mem_append, not_or, not_or]
  exact ⟨⟨by decide, Html.notMem_escape (by decide) message⟩, by decide⟩

theorem notMem_explanationText (status : Status) : '<' ∉ explanationText status := by
  have hsentence : '<' ∉ status.explanation := by
    unfold Status.explanation
    split <;> decide
  unfold explanationText
  simp only [List.mem_append, not_or]
  exact ⟨⟨⟨⟨by decide, Digits.notMem_decimal (by decide) _⟩, by decide⟩, hsentence⟩,
    by decide⟩

/-- **No message brings an angle bracket into an error page.** -/
theorem isClean_of_mem_errorPieces (status : Status) (message : Text) :
    ∀ p ∈ errorPieces status message, IsClean p := by
  have hhead : ∀ p ∈ errorHead, IsClean p := by decide
  have htag : '<' ∉ "p".toList ∧ '>' ∉ "p".toList := by decide
  have hparagraph {text : Text} (h : '<' ∉ text) : IsClean ("p".toList, text) :=
    ⟨htag.1, htag.2, h⟩
  unfold errorPieces errorBody
  simp only [List.forall_mem_append, List.forall_mem_cons]
  exact ⟨hhead, hparagraph (notMem_codeText status), by decide,
    hparagraph (notMem_messageText message), by decide, hparagraph (notMem_explanationText status),
    by decide, by decide, by decide, List.forall_mem_nil _⟩

/-- The pieces come back from the page. -/
theorem pieces_errorPage (status : Status) (message : Text) :
    pieces (errorPage status message) = errorPieces status message := by
  rw [errorPage_eq, Html.pieces_ofPieces (isClean_of_mem_errorPieces status message)]

/-- **All error pages have the same tags**, in the same order. -/
theorem tags_errorPage (status : Status) (message : Text) :
    tags (errorPage status message) = (errorHead ++ errorBody [] [] []).map (·.1) := by
  unfold tags
  rw [pieces_errorPage]
  rfl

/-! ## 2. Reading the message -/

/-- The texts of the paragraphs of a page. -/
def paragraphs (page : Text) : List Text :=
  ((pieces page).filter (·.1 = "p".toList)).map (·.2)

theorem paragraphs_errorPage (status : Status) (message : Text) :
    paragraphs (errorPage status message)
      = [codeText status, messageText message, explanationText status] := by
  unfold paragraphs
  rw [pieces_errorPage]
  rfl

/-- **The message that a page shows**: the text of the second of three paragraphs, without what stands
    around it. -/
def messageIn? (page : Text) : Option Text :=
  match paragraphs page with
  | [_, text, _] => some (Html.unescape (text.drop "Message: ".toList.length).dropLast)
  | _ => none

theorem messageIn?_errorPage (status : Status) (message : Text) :
    messageIn? (errorPage status message) = some message := by
  have htext : (messageText message).drop "Message: ".toList.length = Html.escape message ++ ['.'] := by
    unfold messageText
    rw [List.append_assoc]
    exact List.drop_left
  unfold messageIn?
  rw [paragraphs_errorPage]
  dsimp only
  rw [htext, List.dropLast_concat, Html.unescape_escape]

/-- **Equal error pages have the same code and the same message.** -/
theorem errorPage_inj {s₁ s₂ : Status} {m₁ m₂ : Text} (h : errorPage s₁ m₁ = errorPage s₂ m₂) :
    s₁ = s₂ ∧ m₁ = m₂ := by
  have hparagraphs := congrArg paragraphs h
  rw [paragraphs_errorPage, paragraphs_errorPage, List.cons.injEq] at hparagraphs
  have hcode := Digits.decimal_injective (List.append_cancel_left hparagraphs.1)
  have hmessage := congrArg messageIn? h
  rw [messageIn?_errorPage, messageIn?_errorPage, Option.some_inj] at hmessage
  cases s₁
  cases s₂
  cases hcode
  exact ⟨rfl, hmessage⟩

/-! ## 3. Error pages as they are sent -/

theorem body_errorResponse (status : Status) (message : Text) :
    (errorResponse status message false).body = Utf8.encode (errorPage status message) := rfl

/-- **An escaped text is inert and comes back, and so does the message of an error page.** No text
    brings an angle bracket or a quote into its escaped form; each ampersand there begins an entity;
    and reading these in one pass gives the text back. So two error pages are the same octets only if
    they have the same code and the same message, which can be read from the page, and all have
    the tags of a page without a message, also those that refuse a method. -/
theorem error_page_tells_message :
    (∀ s : Text, (∀ c ∈ Html.escape s, Html.isMarkup c = false)
      ∧ (∀ before after, Html.escape s = before ++ '&' :: after →
          ∃ entry ∈ Html.entities, entry.1 <+: '&' :: after)
      ∧ Html.unescape (Html.escape s) = s)
    ∧ (∀ (status : Status) (message : Text),
      messageIn? (errorPage status message) = some message
        ∧ tags (errorPage status message) = tags (errorPage status []))
    ∧ (∀ (s₁ s₂ : Status) (m₁ m₂ : Text),
      (errorResponse s₁ m₁ false).body = (errorResponse s₂ m₂ false).body ↔ s₁ = s₂ ∧ m₁ = m₂)
    ∧ ∀ method : Text,
      let page := Utf8.decodeLossy (notImplementedResponse method false).body
      messageIn? page = some ("Unsupported method ('".toList ++ method ++ "')".toList)
        ∧ tags page = tags (errorPage .notImplemented []) := by
  refine ⟨fun s => ⟨fun c hc => ?_, fun _ _ => Html.entity_of_ampersand, Html.unescape_escape s⟩,
    fun status message => ⟨messageIn?_errorPage status message, ?_⟩, fun s₁ s₂ m₁ m₂ => ⟨?_, ?_⟩,
    fun method => ?_⟩
  · exact Bool.eq_false_iff.2 fun hmarkup => Html.notMem_escape hmarkup s hc
  · rw [tags_errorPage, tags_errorPage]
  · intro h
    rw [body_errorResponse, body_errorResponse] at h
    exact errorPage_inj (Utf8.encode_injective h)
  · rintro ⟨rfl, rfl⟩
    rfl
  · unfold notImplementedResponse
    rw [body_errorResponse, Utf8.decodeLossy_encode]
    exact ⟨messageIn?_errorPage _ _, by rw [tags_errorPage, tags_errorPage]⟩

/-- A message that goes on like the page does not end before it is over, and entities in a message are
    not read twice. -/
theorem error_page_tells_paragraph :
    messageIn? (errorPage .notFound ".</p>\n        <p>&lt;&amp;".toList)
        = some ".</p>\n        <p>&lt;&amp;".toList
      ∧ (errorResponse .notFound "<".toList false).body
        ≠ (errorResponse .notFound "&lt;".toList false).body
      ∧ ∃ entry ∈ Html.entities, entry.1 <+: "&amp;lt;".toList := by
  obtain ⟨hescape, hpage, hbody, -⟩ := error_page_tells_message
  refine ⟨(hpage _ _).1, fun h => ?_, (hescape "&lt;".toList).2.1 [] "amp;lt;".toList (by decide)⟩
  exact absurd ((hbody _ _ _ _).1 h).2 (by decide)

end Docroot.Site
