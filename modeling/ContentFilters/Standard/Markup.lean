import ContentFilters.Filter.Basic
import ContentFilters.Standard.Tools

/-!
# Markup filters

The two filters that turn what an author wrote into a document: one reads Markdown with the
configured extensions, the other takes the text as it is.
-/
namespace ContentFilters.Standard.Markup

def markdownData : Descriptor where
  moduleName := "textfilter.services.filters.filter_markup"
  qualifiedName := "Markdown"
  typeName := "Markdown"
  kind := .markup
  displayName := "Markdown"
  description := "Markdown markup language from Daring Fireball"
  helpText :=
    "Markdown is a simple text-to-HTML converter that turns common text " ++
    "idioms into HTML.  *emphasis*, **strong**, `code`, [links](url), " ++
    "# headings and indented code blocks are all supported; raw HTML " ++
    "passes through."

def plainData : Descriptor where
  moduleName := "textfilter.services.filters.filter_markup"
  qualifiedName := "Plain"
  typeName := "Plain"
  kind := .markup
  displayName := "None"
  description := "Raw HTML only"

def renderMarkdown (tools : Tools) (text : Text) : Action Text := do
  let settings ← Action.settings
  Action.ofExcept (tools.renderMarkdown settings.markupExtensions text)

def markdown (tools : Tools) : Filter where
  data := markdownData
  behavior := .transform fun text _ => renderMarkdown tools text

def plain : Filter where
  data := plainData
  behavior := .transform fun text _ => pure text

end ContentFilters.Standard.Markup
