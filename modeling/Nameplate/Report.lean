import Nameplate.Description
import Nameplate.Document.Writer
import Nameplate.Settings
import Nameplate.Terminal

/-!
Reports: what the commands print.

Every report is a list of lines.  With colour off a template is printed in its
written form, so what is printed can be pasted back into a configuration.
-/

namespace Nameplate

namespace Report

def segment (palette : Option Palette) : Segment → String
  | .literal text => String.ofList (Segment.escape text.toList)
  | .tag reference => paint palette .cyan ("\x7b" ++ reference.text ++ "\x7d")

/-- A printed template: its written form with coloured tags, or a pair of
quotation marks if there is nothing to show. -/
def template (palette : Option Palette) (template : Template) : String :=
  let shown := String.join (template.segments.map (segment palette))
  if shown.isEmpty then paint palette .dim "\"\"" else shown

/-- A labelled list of templates, numbered from one. -/
def templateList (palette : Option Palette) (label indent : String) (templates : List Template) :
    List String :=
  let heading := indent ++ paint palette .bright (label ++ ":")
  let items := (templates.zipIdx 1).map fun (item, number) =>
    indent ++ "  " ++ toString number ++ ". " ++ template palette item
  let empty := indent ++ "  " ++ paint palette .dim "(none - fallback only)"
  heading :: if templates.isEmpty then [empty] else items

def override (palette : Option Palette) (position : Nat) (rule : Override) : List String :=
  let types := ", ".intercalate (rule.types.toList.map Category.text)
  let heading := "  [" ++ toString position ++ "] " ++
    paint palette .cyan rule.property.text ++ " == " ++ Text.quoted rule.value ++ " " ++
    paint palette .dim ("(" ++ types ++ ")")
  heading :: templateList palette "templates" "    " rule.templates

def names (palette : Option Palette) (names : Names) : List String :=
  let overrides := names.overrides.zipIdx.flatMap fun (rule, position) =>
    override palette position rule
  paint palette .bright "\nTemplates:" ::
    templateList palette "stream" "  " names.stream ++
    templateList palette "endpoint" "  " names.endpoint ++
    templateList palette "device" "  " names.device ++
    paint palette .bright "\nOverrides:" ::
    if names.overrides.isEmpty then [paint palette .dim "  (none)"] else overrides

def originStyle : Origin → Style
  | .override => .magenta
  | .template => .green
  | .fallback => .yellow
  | .none => .red

def unnamed : String := "(unnamed)"

/-- The columns of a table row before the name: the id right-aligned in six
columns, then the kind and the category. -/
def rowHead (description : Description) : String :=
  padLeft 6 (toString description.id) ++ "  " ++ padRight 6 description.kind.text ++ "  " ++
    padRight 8 description.resolution.category.text ++ "  "

/-- A row of the table.  A verbose row ends with the template that made the
name. -/
def row (palette : Option Palette) (verbose : Bool) (description : Description) : String :=
  let resolution := description.resolution
  let name := paint palette (originStyle resolution.origin) (resolution.name.getD unnamed)
  let source := match resolution.template with
    | some made => if verbose then "  " ++ paint palette .dim ("<- " ++ made.text) else ""
    | none => ""
  rowHead description ++ name ++ source

def table (palette : Option Palette) (verbose : Bool) (descriptions : List Description) :
    List String :=
  if descriptions.isEmpty then [paint palette .dim "(no devices or nodes)"]
  else descriptions.map (row palette verbose)

def tags (palette : Option Palette) : List String :=
  Tag.all.map fun tag => "  \x7b" ++ paint palette .cyan tag.text ++ "\x7d"

end Report

def Document.ofText (text : Option String) : Document :=
  match text with
  | some value => .text value
  | none => .null

def Description.toDocument (description : Description) : Document :=
  let resolution := description.resolution
  .mapping [
    ("id", .integer description.id),
    ("kind", .text description.kind.text),
    ("category", .text resolution.category.text),
    ("name", Document.ofText resolution.name),
    ("source", .text resolution.origin.text),
    ("template", Document.ofText (resolution.template.map Template.text)),
    ("override_index", match resolution.overrideIndex with
      | some index => .integer index
      | none => .null)]

end Nameplate
