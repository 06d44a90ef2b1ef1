import ContentFilters.Filter.Error
import ContentFilters.Html.Clean
import ContentFilters.Html.Document.Scan
import ContentFilters.Html.Document.Write
import ContentFilters.Link.Address
import ContentFilters.Markdown.Render

/-!
# The tools of the standard filters

Some standard filters hand their work to a library: one renders Markdown, one cleans HTML, one reads
and writes documents, and one splits addresses. The filters take these functions as they are given,
and pass on any error of theirs. `Tools.bundled` are the ones that come with this library.
-/
namespace ContentFilters.Standard

structure Tools where
  /-- Renders Markdown with the extensions of these names. -/
  renderMarkdown : List String → Text → Except FilterError Text
  cleanHtml : Html.Policy → Text → Except FilterError Text
  readDocument : Text → Except FilterError (List Html.Document.Node)
  writeDocument : List Html.Document.Node → Except FilterError Text
  splitAddress : Text → Except AddressError Address

namespace Tools

def bundled : Tools where
  renderMarkdown names text :=
    match Markdown.Features.ofNames names with
    | .ok features => .ok (Markdown.render features text)
    | .error name => .error (.unknownExtension name)
  cleanHtml policy text := .ok (Html.clean policy text)
  readDocument text :=
    match Html.Document.tokens? text with
    | some tokens => .ok (Html.Document.nodes tokens)
    | none => .error .rejectedMarkup
  writeDocument nodes :=
    match Html.Document.write? nodes with
    | some written => .ok written
    | none => .error .notText
  splitAddress := Address.split

end Tools

end ContentFilters.Standard
