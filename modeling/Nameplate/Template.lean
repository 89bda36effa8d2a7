import Nameplate.Tag

/-!
Name templates: literal text with placeholders.

A template is a sequence of literal texts and tags.  Its written form puts each
tag between braces and doubles the braces of literals.  Rendering is
all-or-nothing: a template with a tag that has no value makes no name, never a
name with a hole in it.
-/

namespace Nameplate

inductive Segment where
  | literal (text : String)
  | tag (tag : Tag)
deriving DecidableEq, Repr

structure Template where
  segments : List Segment
deriving Repr

/-- The smallest part of a template: one literal character or one tag.  How a
literal is divided into segments does not show in its symbols. -/
inductive Symbol where
  | char (character : Char)
  | tag (tag : Tag)
deriving DecidableEq, Repr

def Segment.symbols : Segment → List Symbol
  | .literal text => text.toList.map .char
  | .tag reference => [.tag reference]

/-- The written form of literal characters: a brace is written twice. -/
def Segment.escape : List Char → List Char
  | [] => []
  | '{' :: rest => '{' :: '{' :: escape rest
  | '}' :: rest => '}' :: '}' :: escape rest
  | character :: rest => character :: escape rest

def Segment.written : Segment → List Char
  | .literal text => escape text.toList
  | .tag reference => '{' :: reference.text.toList ++ ['}']

namespace Template

def symbols (template : Template) : List Symbol :=
  template.segments.flatMap Segment.symbols

/-- The segment for a run of literal characters, given last one first.  An
empty run makes no segment. -/
def literalRun (run : List Char) : List Segment :=
  if run.isEmpty then [] else [.literal (String.ofList run.reverse)]

/-- Groups symbols into segments, with `run` the literal characters since the
last tag, the latest one first. -/
def groupSymbols (run : List Char) : List Symbol → List Segment
  | [] => literalRun run
  | .char character :: rest => groupSymbols (character :: run) rest
  | .tag reference :: rest => literalRun run ++ .tag reference :: groupSymbols [] rest

/-- The template of a sequence of symbols, each literal as long as it can be. -/
def ofSymbols (symbols : List Symbol) : Template :=
  ⟨groupSymbols [] symbols⟩

/-- The written form of a template, which reads back as the same template. -/
def text (template : Template) : String :=
  String.ofList (template.segments.flatMap Segment.written)

/-- Templates are equal when their written forms are.  So the same template is
equal to itself however its literals are divided. -/
instance : BEq Template where
  beq left right := left.text == right.text

/-- The tags of a template, in order and with repetitions. -/
def tags (template : Template) : List Tag :=
  template.segments.filterMap fun
    | .literal _ => none
    | .tag tag => some tag

/-- Renders segments, asking for the value of each tag in turn and stopping at
the first that has none. -/
def renderSegments {m : Type → Type} [Monad m] (ask : Tag → m (Option String)) :
    List Segment → m (Option String)
  | [] => pure (some "")
  | .literal text :: rest => do
      let rendered ← renderSegments ask rest
      return rendered.map (text ++ ·)
  | .tag tag :: rest => do
      match ← ask tag with
      | none => return none
      | some value =>
          let rendered ← renderSegments ask rest
          return rendered.map (value ++ ·)

def renderM {m : Type → Type} [Monad m] (template : Template)
    (ask : Tag → m (Option String)) : m (Option String) :=
  renderSegments ask template.segments

def render (template : Template) (value : Tag → Option String) : Option String :=
  template.renderM (m := Id) value

theorem render_literal (text : String) (rest : List Segment) (value : Tag → Option String) :
    render ⟨.literal text :: rest⟩ value = (render ⟨rest⟩ value).map (text ++ ·) := rfl

theorem render_tag (tag : Tag) (rest : List Segment) (value : Tag → Option String) :
    render ⟨.tag tag :: rest⟩ value =
      (value tag).bind fun shown => (render ⟨rest⟩ value).map (shown ++ ·) := by
  simp only [render, renderM, renderSegments]
  cases value tag <;> rfl

def renderTrace (template : Template) (value : Tag → Option String) :
    Option String × List Tag :=
  let ask (tag : Tag) : StateM (List Tag) (Option String) := do
    modify (· ++ [tag])
    return value tag
  (template.renderM ask).run []

end Template

end Nameplate
