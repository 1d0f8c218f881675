import MetalLowering.EntryPoint
import MetalLowering.FieldTable
import MetalLowering.Metadata
import MetalLowering.Sampling
import MetalLowering.Text.Line
import MetalLowering.Vocabulary

/-!
# Lowering one stage

A stage source is lowered line by line. Before the entry point, declarations and directives without
a Metal counterpart are dropped, and every other line only has its words mapped. The marked line
gives way to the signature, which has opened the body already: the first opening brace of the source
after the mark is not repeated. From there on every line has its names replaced, and a line that
starts with a closing brace is preceded by the return of the output variable.

`Lowering.lowerLine` is one step of this, from a `Position` to the next; `Lowering.lower` runs a
whole source. What was put out before a failure stays in the `Emission`.
-/

namespace MetalLowering

open EntryPoint (BoundTexture)
open Json (Value)

/-- The lines put out so far, and what stopped the work, if anything did. -/
structure Emission where
  /-- The lines in order. -/
  lines : List Text
  /-- Why no more lines follow. -/
  failure : Option Failure := none

namespace Emission

/-- The second emission after the first, unless that was stopped. -/
def append (a b : Emission) : Emission :=
  match a.failure with
  | some _ => a
  | none => ⟨a.lines ++ b.lines, b.failure⟩

/-- One line, or what kept it from being made. -/
def ofLine (line : Except Failure Text) (block : Text → List Text) : Emission :=
  match line with
  | .ok line => ⟨block line, none⟩
  | .error e => ⟨[], some e⟩

/-- The lines of an emission that was not stopped. -/
def result (e : Emission) : Except Failure (List Text) :=
  match e.failure with
  | some failure => .error failure
  | none => .ok e.lines

end Emission

/-- How a stage is lowered: its field table and, in the fragment stage, its textures. -/
structure Lowering where
  /-- The stage. -/
  stage : Stage
  /-- The names of the shader source and what they have become. -/
  table : FieldTable
  /-- The bound textures in the order of their slots. -/
  textures : List BoundTexture := []

/-- Where a line stands relative to the entry point. -/
inductive Position
  /-- Before the entry point. -/
  | preamble
  /-- After the mark, with the opening brace still to come. -/
  | awaitingBrace
  /-- After the opening brace. -/
  | body
  deriving Repr, DecidableEq

namespace Lowering

/-! ## Making a lowering -/

/-- A uniform's name with its access. -/
def uniformEntry (u : Uniform) : Value × Text :=
  (u.name, Metal.member Metal.uniformsInput u.name.display)

/-- A name with its access as a field. -/
def fieldEntry (owner name : Text) : Value × Text := (.text name, Metal.member owner name)

/-- What is registered for the vertex stage: attributes, uniforms, varyings, and the position. -/
def vertexEntries (metadata : Metadata) (attributes varyings : List Text) : List (Value × Text) :=
  attributes.map (fieldEntry Metal.vertexInput) ++ metadata.uniforms.map uniformEntry ++
    varyings.map (fieldEntry (Metal.output .vertex)) ++
    [(.text (Metal.builtinOutput .vertex), Metal.member (Metal.output .vertex) Metal.positionField)]

/-- What is registered for the fragment stage: uniforms, varyings, and the color. -/
def fragmentEntries (metadata : Metadata) (varyings : List Text) : List (Value × Text) :=
  metadata.uniforms.map uniformEntry ++ varyings.map (fieldEntry Metal.fragmentInput) ++
    [(.text (Metal.builtinOutput .fragment), Metal.output .fragment)]

/-- The kinds of all images; an image that is no text has a kind, unless it is a list or object. -/
def imageKinds (images : List Value) (types : List (Text × Text)) :
    Except Failure (List (Value × TextureKind)) :=
  images.mapM fun image =>
    match image with
    | .text name => (Sampler.resolve name types).map fun kind => (image, kind)
    | _ => if image.isKey then .ok (image, .plane) else .error .shape

/-- The bound textures. All kinds are decided before names that are no texts are refused. -/
def boundTextures (images : List Value) (types : List (Text × Text)) :
    Except Failure (List BoundTexture) := do
  let kinds ← imageKinds images types
  kinds.mapM fun (image, kind) =>
    match image.text? with
    | some name => .ok ⟨name, kind⟩
    | none => .error .shape

/-- How the vertex stage is lowered. -/
def vertex (metadata : Metadata) (attributes varyings : List Text) : Traced Failure Lowering := do
  let table ← FieldTable.build {} (vertexEntries metadata attributes varyings)
  return { stage := .vertex, table }

/-- How the fragment stage is lowered. -/
def fragment (metadata : Metadata) (varyings : List Text) (types : List (Text × Text)) :
    Traced Failure Lowering := do
  let table ← FieldTable.build {} (fragmentEntries metadata varyings)
  let textures ← Traced.ofExcept (boundTextures metadata.images types)
  return { stage := .fragment, table, textures }

/-- The kind of each texture name. -/
def textureKinds (s : Lowering) : List (Text × TextureKind) :=
  s.textures.foldl (fun t texture => Table.put texture.name texture.kind t) []

/-! ## Lines -/

/-- The lines that stand for the mark. -/
def signature (s : Lowering) : List Text := EntryPoint.signature s.stage s.textures

/-- A line outside the entry point. -/
def mapLine (s : Lowering) (line : Text) : Text := Vocabulary.mapLine s.stage line

/-- A line inside the entry point: its words mapped, its names replaced, and in the fragment stage
its sampling calls lowered, one texture after the other. -/
def lowerBodyLine (s : Lowering) (line : Text) : Except Failure Text :=
  match s.table.lower (s.mapLine line) with
  | .error e => .error e
  | .ok line => s.textures.foldlM (fun line texture => Sampling.lower texture.name line) line

/-- The line that returns the output variable. -/
def returnLine (s : Lowering) : Text := "    return " ++ Metal.output s.stage ++ ";"

/-- First words of lines that are dropped before the entry point: declarations, which are collected
elsewhere, and directives without a counterpart. -/
def droppedWords : List Text := ["uniform", "attribute", "varying", "precision", "#version"]

/-- Whether a line is dropped before the entry point. -/
def isDropped (line : Text) : Bool := (Text.words line).head?.any droppedWords.contains

/-- Whether a line is taken as the entry point. -/
def isEntryPoint (line : Text) : Bool := !isDropped line && EntryPoint.isMarked line

/-- The text before the last closing brace, and the text after it. -/
def cutAtLastBrace (text : Text) : Text × Text :=
  let after := text.reverse.takeWhile (· ≠ '\x7d')
  ((text.reverse.drop (after.length + 1)).reverse, after.reverse)

/-- What is put out for a statement on the line of the opening brace. -/
def statementBlock (s : Lowering) (t : Text) : Emission :=
  if t = [] then ⟨[], none⟩ else .ofLine (s.lowerBodyLine t) fun t => ["    " ++ t]

/-- What is put out for the text behind the opening brace on its line. A closing brace without an
opening one on the same line ends the entry point. -/
def openingBlock (s : Lowering) (text : Text) : Emission :=
  let text := Text.trim text
  if text.count '\x7b' < text.count '\x7d' then
    let (inner, tail) := cutAtLastBrace text
    (s.statementBlock (Text.trimRight inner)).append ⟨[s.returnLine, '\x7d' :: tail], none⟩
  else s.statementBlock text

/-- What is put out for a line of the body. -/
def bodyBlock (s : Lowering) (line : Text) : Emission :=
  .ofLine (s.lowerBodyLine line) fun l =>
    if l.head? = some '\x7d' then [s.returnLine, l] else [l]

/-- What is put out for a line, and the position after it. -/
def lowerLine (s : Lowering) : Position → Text → Emission × Position
  | .preamble, line =>
    if isDropped line then (⟨[], none⟩, .preamble)
    else if EntryPoint.isMarked line then
      match (Text.cutAt "\x7b" line).2 with
      | some rest => (Emission.append ⟨s.signature, none⟩ (s.openingBlock rest), .body)
      | none => (⟨s.signature, none⟩, .awaitingBrace)
    else (⟨[s.mapLine line], none⟩, .preamble)
  | .awaitingBrace, line =>
    match Text.trim line with
    | [] => (s.bodyBlock line, .awaitingBrace)
    | c :: rest => (if c = '\x7b' then s.openingBlock rest else s.bodyBlock line, .body)
  | .body, line => (s.bodyBlock line, .body)

/-- What is put out for lines from a position on. A source that ends before its entry point has
none. -/
def lowerLines (s : Lowering) : Position → List Text → Emission
  | .preamble, [] => ⟨[], some (.shader (.missingEntryPoint s.stage))⟩
  | _, [] => ⟨[], none⟩
  | position, line :: rest =>
    let (block, next) := s.lowerLine position line
    block.append (s.lowerLines next rest)

/-- What is put out for a stage source. -/
def lower (s : Lowering) (source : Text) : Emission := s.lowerLines .preamble (Text.lines source)

/-- What is noted while a source is lowered: its entry point, if it has one. -/
def entryNotes (s : Lowering) (source : Text) : List Entry :=
  if (Text.lines source).any isEntryPoint then
    [⟨.debug, "Entered " ++ s.stage.name ++ " entry point"⟩]
  else []

/-- The lines of a lowered source. -/
def run (s : Lowering) (source : Text) : Traced Failure (List Text) :=
  ⟨s.entryNotes source, (s.lower source).result⟩

end Lowering

end MetalLowering
